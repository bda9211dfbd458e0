import ProfileBindings.Artifact.NameFunctions
import ProfileBindings.Artifact.ProfileTable
import ProfileBindings.Artifact.VerifyFunction
import ProfileBindings.Files.Basic

/-!
# Rendering

A document is generated into two artifacts. The source has a verify function for each profile, the table of
profiles, and the name functions. The header declares what the source defines, and the types of the table.

Main definitions: `Source` and `Header` (the parts of the two artifacts), each with `ofDocument` and `print`,
and `Artifact.render`.
-/

namespace ProfileBindings.Artifact

/-! ## The source -/

/-- The parts of the generated source. -/
structure Source where
  spdxLicense : Option String
  headerInclude : String
  verifyFunctions : List VerifyFunction
  profiles : List ProfileEntry
  inputs : NameFunctions
  outputs : NameFunctions

namespace Source

/-- The source of a document. The configuration is looked at first, then whether there are profiles, then
the profiles in their order. -/
def ofDocument (config : Config) (d : Document) : Except Error Source := do
  config.check.mapError .invalidConfig
  if d.profiles.isEmpty then throw .noProfiles
  let profiles ← d.profiles.mapM (ProfileEntry.ofProfile config)
  let names := EnumeratorNames.ofDocument d config.extraInputs
  return {
    spdxLicense := config.spdxLicense
    headerInclude := config.headerInclude
    verifyFunctions := d.profiles.map (VerifyFunction.ofProfile config)
    profiles
    inputs := ⟨.input, names.inputs.toList, config.inputFallback⟩
    outputs := ⟨.output, names.outputs.toList, config.outputFallback⟩ }

/-- The head of the source. -/
def banner (s : Source) : C.Banner := ⟨"Generated bindings data", "oxr_main", s.spdxLicense⟩

/-- The text of the source. -/
def print (s : Source) : String :=
  s.banner.print
    ++ C.lines ["", "#include \"" ++ s.headerInclude ++ "\"", "#include <string.h>", "",
      "// clang-format off"]
    ++ String.join (s.verifyFunctions.map VerifyFunction.print)
    ++ ProfileTable.print s.profiles
    ++ s.inputs.print
    ++ s.outputs.print
    ++ C.lines ["", "// clang-format on"]

end Source

/-! ## The header -/

/-- The parts of the generated header. -/
structure Header where
  spdxLicense : Option String
  definesInclude : String
  /-- The names of the verify functions. -/
  verifyFunctions : List String
  /-- The size of the array of paths of a component. -/
  pathsPerTemplate : Nat
  profileCount : Nat

namespace Header

/-- The header of a document. The configuration is looked at first, then whether there are profiles. -/
def ofDocument (config : Config) (d : Document) : Except Error Header := do
  config.check.mapError .invalidConfig
  if d.profiles.isEmpty then throw .noProfiles
  return {
    spdxLicense := config.spdxLicense
    definesInclude := config.definesInclude
    verifyFunctions := d.profiles.map fun p => VerifyFunction.nameOf config p.name
    pathsPerTemplate := config.pathsPerTemplate
    profileCount := d.profiles.length }

/-- The head of the header. -/
def banner (h : Header) : C.Banner := ⟨"Generated bindings data header", "oxr_api", h.spdxLicense⟩

/-- The types of the table, and its declaration. -/
def tableLines (h : Header) : List String := [
  "",
  "#define PATHS_PER_BINDING_TEMPLATE " ++ toString h.pathsPerTemplate,
  "",
  "struct binding_template",
  "\x7b",
  "\tconst char *subaction_path;",
  "\tconst char *steamvr_path;",
  "\tconst char *localized_name;",
  "\tconst char *paths[PATHS_PER_BINDING_TEMPLATE];",
  "\tenum xrt_input_name input;",
  "\tenum xrt_output_name output;",
  "\x7d;",
  "",
  "struct profile_template",
  "\x7b",
  "\tenum xrt_device_name name;",
  "\tconst char *path;",
  "\tconst char *localized_name;",
  "\tconst char *steamvr_input_profile_path;",
  "\tconst char *steamvr_controller_type;",
  "\tstruct binding_template *bindings;",
  "\tsize_t binding_count;",
  "\x7d;",
  "",
  "#define NUM_PROFILE_TEMPLATES " ++ toString h.profileCount,
  "extern struct profile_template profile_templates[NUM_PROFILE_TEMPLATES];",
  ""]

/-- The text of the header. -/
def print (h : Header) : String :=
  h.banner.print
    ++ C.lines ["", "#pragma once", "", "#include <stddef.h>", "",
      "#include \"" ++ h.definesInclude ++ "\"", "", "// clang-format off"]
    ++ String.join (h.verifyFunctions.map VerifyFunction.prototype)
    ++ C.lines h.tableLines
    ++ NameFunctions.prototypes .input
    ++ NameFunctions.prototypes .output
    ++ C.lines ["", "// clang-format on"]

end Header

/-! ## Both artifacts -/

/-- The text of an artifact. -/
def render (kind : Kind) (config : Config) (d : Document) : Except Error String :=
  match kind with
  | .source => (Source.ofDocument config d).map Source.print
  | .header => (Header.ofDocument config d).map Header.print

end ProfileBindings.Artifact
