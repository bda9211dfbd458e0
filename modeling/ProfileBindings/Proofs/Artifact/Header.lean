import ProfileBindings.Proofs.Artifact.NameFunctions
import ProfileBindings.Proofs.Artifact.Preamble
import ProfileBindings.Proofs.Artifact.VerifyFunction

/-!
# What the generated header declares

The text of the header is read as C from its first character to its last. It declares the verify functions, the
types of the table, the table and the name functions, and it defines two constants.

* `Header.Clean` : the parts are such that the text is read as it is meant;
* `Header.trees`, `Header.constants` : the declarations, and the constants.

Main statements: `Header.trees?_print` and `Header.macros_print`.
-/

namespace ProfileBindings.Artifact

open C

/-! ## Prototypes -/

theorem contributes_blank : Contributes ("" ++ "\n") [] [] := .line rfl rfl rfl

/-- The declaration of a verify function. -/
def VerifyFunction.prototypeTrees (name : String) : List Tree := [
  .word "bool", .word name, .group .round parameterTrees, .mark ";"]

theorem VerifyFunction.contributes_prototype {name : String} (h : Text.isIdentifier name = true) :
    Contributes (prototype name) (Tree.tokensOf (prototypeTrees name)) [] := by
  have hbool : Contributes ("bool" ++ "\n") [.atom (.word "bool")] [] := .literal rfl rfl rfl rfl
  have hparameters : Reads (.between .plain) "(const char *str, size_t length);\n".toList
      (Tree.tokensOf [.group .round parameterTrees, .mark ";"]) .start := .literal rfl (by decide) rfl
  have hreads : Reads .start (name ++ "(const char *str, size_t length);" ++ "\n").toList
      (.atom (.word name) :: Tree.tokensOf [.group .round parameterTrees, .mark ";"]) .start := by
    rw [String.append_assoc]
    exact Reads.identifier (Or.inl rfl) h rfl hparameters
  have hname := Contributes.of_noDirectives (.of_identifier h (by decide) (by decide)) hreads
  have htext : prototype name = "" ++ "\n" ++ ("bool" ++ "\n"
      ++ (name ++ "(const char *str, size_t length);" ++ "\n")) := by
    apply String.toList_inj.mp
    simp [prototype, signature]
  rw [htext]
  exact contributes_blank.append (hbool.append hname)

/-- The declarations of the name functions of a direction. -/
def NameFunctions.prototypeTrees (direction : Direction) : List Tree :=
  [.word "const", .word "char", .mark "*"]
    ++ signatureTrees direction (stringName direction) [.word "enum", .word (enumType direction)]
    ++ [.mark ";", .word "enum", .word (enumType direction)]
    ++ signatureTrees direction (enumName direction) [.word "const", .word "char", .mark "*"]
    ++ [.mark ";"]

set_option maxRecDepth 2000 in
theorem NameFunctions.contributes_stringPrototype (direction : Direction) :
    Contributes ("\n".intercalate (stringSignature direction) ++ ";\n\n")
      (Tree.tokensOf ([.word "const", .word "char", .mark "*"]
        ++ (signatureTrees direction (stringName direction) [.word "enum", .word (enumType direction)]
          ++ [.mark ";"]))) [] := by
  have htype : Contributes ("const char *" ++ "\n")
      (Tree.tokensOf [.word "const", .word "char", .mark "*"]) [] := .literal rfl rfl rfl rfl
  have hname : Contributes ("xrt_" ++ direction.word ++ "_name_string(enum xrt_" ++ direction.word ++ "_name "
      ++ direction.word ++ ");" ++ "\n") (Tree.tokensOf (signatureTrees direction (stringName direction)
        [.word "enum", .word (enumType direction)] ++ [.mark ";"])) [] := by
    cases direction <;> exact .line (by decide) rfl rfl
  have htext : "\n".intercalate (stringSignature direction) ++ ";\n\n" = "const char *" ++ "\n"
      ++ ("xrt_" ++ direction.word ++ "_name_string(enum xrt_" ++ direction.word ++ "_name " ++ direction.word
        ++ ");" ++ "\n") ++ ("" ++ "\n") := by
    apply String.toList_inj.mp
    simp [stringSignature, String.intercalate_cons_cons]
  rw [htext, Tree.tokensOf_append]
  simpa using (htype.append hname).append contributes_blank

set_option maxRecDepth 2000 in
theorem NameFunctions.contributes_enumPrototype (direction : Direction) :
    Contributes ("\n".intercalate (enumSignature direction) ++ ";\n\n")
      (Tree.tokensOf ([.word "enum", .word (enumType direction)]
        ++ (signatureTrees direction (enumName direction) [.word "const", .word "char", .mark "*"]
          ++ [.mark ";"]))) [] := by
  have htype : Contributes ("enum xrt_" ++ direction.word ++ "_name" ++ "\n")
      (Tree.tokensOf [.word "enum", .word (enumType direction)]) [] := by
    cases direction <;> exact .line (by decide) rfl rfl
  have hname : Contributes ("xrt_" ++ direction.word ++ "_name_enum(const char *" ++ direction.word ++ ");" ++ "\n")
      (Tree.tokensOf (signatureTrees direction (enumName direction) [.word "const", .word "char", .mark "*"]
        ++ [.mark ";"])) [] := by
    cases direction <;> exact .line (by decide) rfl rfl
  have htext : "\n".intercalate (enumSignature direction) ++ ";\n\n" = "enum xrt_" ++ direction.word ++ "_name"
      ++ "\n" ++ ("xrt_" ++ direction.word ++ "_name_enum(const char *" ++ direction.word ++ ");" ++ "\n")
      ++ ("" ++ "\n") := by
    apply String.toList_inj.mp
    simp [enumSignature, String.intercalate_cons_cons]
  rw [htext, Tree.tokensOf_append]
  simpa using (htype.append hname).append contributes_blank

theorem NameFunctions.contributes_prototypes (direction : Direction) :
    Contributes (prototypes direction) (Tree.tokensOf (prototypeTrees direction)) [] := by
  have h := (contributes_stringPrototype direction).append (contributes_enumPrototype direction)
  rw [← Tree.tokensOf_append] at h
  unfold prototypes
  simpa [prototypeTrees, String.append_assoc] using h

/-! ## The types of the table -/

/-- A member that holds a text. -/
def textMember (name : String) : List Tree := [.word "const", .word "char", .mark "*", .word name, .mark ";"]

/-- A structure with its members. -/
def structTrees (name : String) (members : List Tree) : List Tree :=
  [.word "struct", .word name, .group .curly members, .mark ";"]

/-- The members of an entry for a component. -/
def bindingMembers : List Tree :=
  textMember "subaction_path" ++ textMember "steamvr_path" ++ textMember "localized_name"
    ++ [.word "const", .word "char", .mark "*", .word "paths",
      .group .square [.word "PATHS_PER_BINDING_TEMPLATE"], .mark ";",
      .word "enum", .word "xrt_input_name", .word "input", .mark ";",
      .word "enum", .word "xrt_output_name", .word "output", .mark ";"]

/-- The members of an entry for a profile. -/
def profileMembers : List Tree :=
  [.word "enum", .word "xrt_device_name", .word "name", .mark ";"]
    ++ textMember "path" ++ textMember "localized_name" ++ textMember "steamvr_input_profile_path"
    ++ textMember "steamvr_controller_type"
    ++ [.word "struct", .word "binding_template", .mark "*", .word "bindings", .mark ";",
      .word "size_t", .word "binding_count", .mark ";"]

theorem contributes_bindingTemplate : Contributes (lines ["struct binding_template", "\x7b",
      "\tconst char *subaction_path;", "\tconst char *steamvr_path;", "\tconst char *localized_name;",
      "\tconst char *paths[PATHS_PER_BINDING_TEMPLATE];", "\tenum xrt_input_name input;",
      "\tenum xrt_output_name output;", "\x7d;"])
    (Tree.tokensOf (structTrees "binding_template" bindingMembers)) [] :=
  -- Line by line, since a literal takes the longer to decode the longer it is.
  .lines_cons (Tree.tokensOf [.word "struct", .word "binding_template"]) (.literal rfl rfl rfl rfl) <|
  .lines_cons [.opening .curly] (.literal rfl rfl rfl rfl) <|
  .lines_cons (Tree.tokensOf (textMember "subaction_path")) (.literal rfl rfl rfl rfl) <|
  .lines_cons (Tree.tokensOf (textMember "steamvr_path")) (.literal rfl rfl rfl rfl) <|
  .lines_cons (Tree.tokensOf (textMember "localized_name")) (.literal rfl rfl rfl rfl) <|
  .lines_cons (Tree.tokensOf [.word "const", .word "char", .mark "*", .word "paths",
      .group .square [.word "PATHS_PER_BINDING_TEMPLATE"], .mark ";"]) (.literal rfl (by decide) rfl rfl) <|
  .lines_cons (Tree.tokensOf [.word "enum", .word "xrt_input_name", .word "input", .mark ";"])
    (.literal rfl rfl rfl rfl) <|
  .lines_cons (Tree.tokensOf [.word "enum", .word "xrt_output_name", .word "output", .mark ";"])
    (.literal rfl rfl rfl rfl) <|
  .lines_cons [.closing .curly, .atom (.mark ";")] (.literal rfl rfl rfl rfl) .lines_nil

theorem contributes_profileTemplate : Contributes (lines ["struct profile_template", "\x7b",
      "\tenum xrt_device_name name;", "\tconst char *path;", "\tconst char *localized_name;",
      "\tconst char *steamvr_input_profile_path;", "\tconst char *steamvr_controller_type;",
      "\tstruct binding_template *bindings;", "\tsize_t binding_count;", "\x7d;"])
    (Tree.tokensOf (structTrees "profile_template" profileMembers)) [] :=
  .lines_cons (Tree.tokensOf [.word "struct", .word "profile_template"]) (.literal rfl rfl rfl rfl) <|
  .lines_cons [.opening .curly] (.literal rfl rfl rfl rfl) <|
  .lines_cons (Tree.tokensOf [.word "enum", .word "xrt_device_name", .word "name", .mark ";"])
    (.literal rfl rfl rfl rfl) <|
  .lines_cons (Tree.tokensOf (textMember "path")) (.literal rfl rfl rfl rfl) <|
  .lines_cons (Tree.tokensOf (textMember "localized_name")) (.literal rfl rfl rfl rfl) <|
  .lines_cons (Tree.tokensOf (textMember "steamvr_input_profile_path")) (.literal rfl rfl rfl rfl) <|
  .lines_cons (Tree.tokensOf (textMember "steamvr_controller_type")) (.literal rfl rfl rfl rfl) <|
  .lines_cons (Tree.tokensOf [.word "struct", .word "binding_template", .mark "*", .word "bindings", .mark ";"])
    (.literal rfl rfl rfl rfl) <|
  .lines_cons (Tree.tokensOf [.word "size_t", .word "binding_count", .mark ";"]) (.literal rfl rfl rfl rfl) <|
  .lines_cons [.closing .curly, .atom (.mark ";")] (.literal rfl rfl rfl rfl) .lines_nil

/-! ## The header -/

namespace Header

/-- What is printed as it is can be, wherever it stands. -/
structure Clean (h : Header) : Prop where
  license : ∀ license ∈ h.spdxLicense, '\n' ∉ license.toList
  definesInclude : '\n' ∉ h.definesInclude.toList ∧ '"' ∉ h.definesInclude.toList
  verifyFunctions : ∀ name ∈ h.verifyFunctions, Text.isIdentifier name = true

/-- The types of the table, and its declaration. -/
def tableTrees : List Tree :=
  structTrees "binding_template" bindingMembers ++ structTrees "profile_template" profileMembers
    ++ [.word "extern", .word "struct", .word "profile_template", .word "profile_templates",
      .group .square [.word "NUM_PROFILE_TEMPLATES"], .mark ";"]

/-- The declarations. -/
def trees (h : Header) : List Tree :=
  h.verifyFunctions.flatMap VerifyFunction.prototypeTrees ++ tableTrees
    ++ NameFunctions.prototypeTrees .input ++ NameFunctions.prototypeTrees .output

/-- The constants, as macros. -/
def constants (h : Header) : List Macro := [
  ⟨"PATHS_PER_BINDING_TEMPLATE", [.atom (.number (toString h.pathsPerTemplate))]⟩,
  ⟨"NUM_PROFILE_TEMPLATES", [.atom (.number (toString h.profileCount))]⟩]

set_option maxRecDepth 2000 in
theorem contributes_tableLines (h : Header) :
    Contributes (lines h.tableLines) (Tree.tokensOf tableTrees) h.constants := by
  have hpaths : OpensConstant "#define PATHS_PER_BINDING_TEMPLATE " "PATHS_PER_BINDING_TEMPLATE" _ :=
    ⟨rfl, by decide, by decide, rfl, rfl⟩
  have hprofiles : OpensConstant "#define NUM_PROFILE_TEMPLATES " "NUM_PROFILE_TEMPLATES" _ :=
    ⟨rfl, by decide, by decide, rfl, rfl⟩
  have hextern : Contributes ("extern struct profile_template profile_templates[NUM_PROFILE_TEMPLATES];" ++ "\n")
      (Tree.tokensOf [.word "extern", .word "struct", .word "profile_template", .word "profile_templates",
        .group .square [.word "NUM_PROFILE_TEMPLATES"], .mark ";"]) [] := .literal rfl (by decide) rfl rfl
  have hbefore := Contributes.lines_cons [] contributes_blank <|
    .lines_cons [] (hpaths.contributes h.pathsPerTemplate) <| .lines_cons [] contributes_blank .lines_nil
  have hbetween := Contributes.lines_cons [] contributes_blank .lines_nil
  have hafter := Contributes.lines_cons [] contributes_blank <|
    .lines_cons [] (hprofiles.contributes h.profileCount) <| .lines_cons _ hextern <|
    .lines_cons [] contributes_blank .lines_nil
  exact (hbefore.lines_append contributes_bindingTemplate).lines_append
    (hbetween.lines_append (contributes_profileTemplate.lines_append hafter))

theorem contributes_head {h : Header} (hclean : h.Clean) :
    Contributes (lines ["", "#pragma once", "", "#include <stddef.h>", "",
      "#include \"" ++ h.definesInclude ++ "\"", "", "// clang-format off"]) [] [] := by
  have hpragma : Contributes ("#pragma once" ++ "\n") [] [] := .literal rfl rfl rfl rfl
  have hstddef : Contributes ("#include <stddef.h>" ++ "\n") [] [] := .literal rfl rfl rfl rfl
  have hformat : Contributes ("// clang-format off" ++ "\n") [] [] := .literal rfl rfl rfl rfl
  exact .lines_cons [] contributes_blank <| .lines_cons [] hpragma <| .lines_cons [] contributes_blank <|
    .lines_cons [] hstddef <| .lines_cons [] contributes_blank <|
    .lines_cons [] (contributes_include hclean.definesInclude) <| .lines_cons [] contributes_blank <|
    .lines_cons [] hformat .lines_nil

theorem contributes_print {h : Header} (hclean : h.Clean) : ∃ atoms, Remains atoms ∧
    Contributes h.print (Tree.tokensOf (atoms.map .leaf ++ h.trees)) h.constants := by
  obtain ⟨atoms, hremains, hbanner⟩ := contributes_banner (k := .header) hclean.license
  have hverify : Contributes (String.join (h.verifyFunctions.map VerifyFunction.prototype))
      (Tree.tokensOf (h.verifyFunctions.flatMap VerifyFunction.prototypeTrees)) [] := by
    rw [Tree.tokensOf_flatMap]
    exact .join fun name hname => VerifyFunction.contributes_prototype (hclean.verifyFunctions name hname)
  have hinput := NameFunctions.contributes_prototypes .input
  have houtput := NameFunctions.contributes_prototypes .output
  have hformat : Contributes ("// clang-format on" ++ "\n") [] [] := .literal rfl rfl rfl rfl
  have hend : Contributes (lines ["", "// clang-format on"]) [] [] :=
    .lines_cons [] contributes_blank (.lines_cons [] hformat .lines_nil)
  have hall := (((((hbanner.append (contributes_head hclean)).append hverify).append
    (contributes_tableLines h)).append hinput).append houtput).append hend
  refine ⟨atoms, hremains, ?_⟩
  unfold print
  simp only [List.append_nil, List.nil_append, List.append_assoc, trees, Tree.tokensOf_append,
    Tree.tokensOf_leaves] at hall ⊢
  exact hall

theorem trees?_print {h : Header} (hclean : h.Clean) :
    ∃ atoms, Remains atoms ∧ trees? h.print = some (atoms.map .leaf ++ h.trees) := by
  obtain ⟨atoms, hremains, hprint⟩ := contributes_print hclean
  refine ⟨atoms, hremains, ?_⟩
  rw [trees?, tokens_of_reads hprint.reads, nest_tokensOf]

/-- The header defines its constants, and no other macros. -/
theorem macros_print {h : Header} (hclean : h.Clean) : macros h.print = h.constants := by
  obtain ⟨_, -, hprint⟩ := contributes_print hclean
  exact macros_of_defines hprint.defines

theorem macro?_pathsPerTemplate {h : Header} (hclean : h.Clean) :
    macro? h.print "PATHS_PER_BINDING_TEMPLATE" = some h.pathsPerTemplate := by
  have hfilter : h.constants.filter (·.name = "PATHS_PER_BINDING_TEMPLATE")
      = [⟨"PATHS_PER_BINDING_TEMPLATE", [.atom (.number (toString h.pathsPerTemplate))]⟩] := rfl
  rw [macro?, macros_print hclean, hfilter]
  exact constant?_toString _

theorem macro?_profileCount {h : Header} (hclean : h.Clean) :
    macro? h.print "NUM_PROFILE_TEMPLATES" = some h.profileCount := by
  have hfilter : h.constants.filter (·.name = "NUM_PROFILE_TEMPLATES")
      = [⟨"NUM_PROFILE_TEMPLATES", [.atom (.number (toString h.profileCount))]⟩] := rfl
  rw [macro?, macros_print hclean, hfilter]
  exact constant?_toString _

end Header

end ProfileBindings.Artifact
