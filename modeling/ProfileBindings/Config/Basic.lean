import ProfileBindings.Enumerator.Names

/-!
# Configuration

What can be chosen about the generated files: the headers they include, how functions are named, how many
paths a component may have, which enumerators stand in for unknown names, and the license they carry.

Main definitions: `Config`, `Config.standard`, `Config.Fault`, `Config.fault?`, `Config.check`.
-/

namespace ProfileBindings

/-- What can be chosen about the generated files. -/
structure Config where
  /-- The header that the source includes. -/
  headerInclude : String
  /-- The header that declares the enumerations of the runtime. -/
  definesInclude : String
  /-- How the names of the verify functions begin. -/
  verifyPrefix : String
  /-- The size of the array of paths of a component, its terminator included. -/
  pathsPerTemplate : Nat
  /-- Inputs that have names although no profile binds them. -/
  extraInputs : List String
  /-- The input that an unknown name stands for. -/
  inputFallback : String
  /-- The output that an unknown name stands for. -/
  outputFallback : String
  /-- The license of the generated files. -/
  spdxLicense : Option String
deriving DecidableEq, Repr

namespace Config

/-- What is chosen unless something else is said. -/
def standard : Config where
  headerInclude := "b_generated_bindings.h"
  definesInclude := "xrt/xrt_defines.h"
  verifyPrefix := "oxr_verify_"
  pathsPerTemplate := 8
  extraInputs := EnumeratorNames.standardExtras
  inputFallback := "XRT_INPUT_GENERIC_TRACKER_POSE"
  outputFallback := "XRT_OUTPUT_NAME_SIMPLE_VIBRATION"
  spdxLicense := none

/-- The smallest array that holds the paths of a position and the terminator. -/
def leastPathsPerTemplate : Nat := 4

/-- Why a choice makes no valid files. -/
inductive Fault where
  | badInclude (field value : String)
  | badVerifyPrefix (value : String)
  | tooFewPaths (value : Nat)
  | badEnumerator (direction : Direction) (name : String)
  | badLicense
deriving DecidableEq, Repr

/-- A fault in words. -/
def Fault.message : Fault → String
  | badInclude field value => field ++ " '" ++ value ++ "' is not a valid include path"
  | badVerifyPrefix value => "verify_prefix '" ++ value ++ "' is not a C identifier"
  | tooFewPaths value =>
    "paths_per_binding_template must be at least " ++ toString leastPathsPerTemplate ++ ", got "
      ++ toString value
  | badEnumerator direction name =>
    "'" ++ name ++ "' is not an " ++ direction.enumeratorStart ++ "* enumerator"
  | badLicense => "spdx_license must be a single non-empty line"

/-- The text ends a line. -/
def breaksLine (s : String) : Bool := s.toList.any fun c => c == '\n' || c == '\r'

/-- The text can stand between the quotes of an include. -/
def isIncludePath (s : String) : Bool := s ≠ "" && !s.toList.contains '"' && !breaksLine s

/-- The name is an enumerator of a direction. -/
def isEnumeratorOf (direction : Direction) (name : String) : Bool :=
  Text.isIdentifier name && Text.hasPrefix direction.enumeratorStart name

/-- The text is a license on one line. -/
def isLicense (s : String) : Bool := s ≠ "" && !breaksLine s

/-- The first fault, in the order of the fields. -/
def fault? (c : Config) : Option Fault :=
  if !isIncludePath c.headerInclude then some (.badInclude "header_include" c.headerInclude)
  else if !isIncludePath c.definesInclude then some (.badInclude "defines_include" c.definesInclude)
  else if !Text.isIdentifier c.verifyPrefix then some (.badVerifyPrefix c.verifyPrefix)
  else if c.pathsPerTemplate < leastPathsPerTemplate then some (.tooFewPaths c.pathsPerTemplate)
  else match (c.extraInputs ++ [c.inputFallback]).find? fun name => !isEnumeratorOf .input name with
    | some name => some (.badEnumerator .input name)
    | none =>
      if !isEnumeratorOf .output c.outputFallback then some (.badEnumerator .output c.outputFallback)
      else match c.spdxLicense with
        | some license => if isLicense license then none else some .badLicense
        | none => none

/-- The choices make valid files. -/
def check (c : Config) : Except Fault Unit :=
  match c.fault? with
  | some fault => .error fault
  | none => .ok ()

end Config

end ProfileBindings
