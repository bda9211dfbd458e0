import ProfileBindings.Proofs.Artifact.Assembly
import ProfileBindings.Proofs.Artifact.TableReader

/-!
# The tokens of the printed table

Every text in the table is quoted and escaped, apart from two that need no escape, so that no text can end
its literal. Tokens are put together line by line.

* `ProfileEntry.Clean` : the words that are printed as they are can be;
* `ProfileTable.trees` : the table as trees.

Main statement: `ProfileTable.reads_print`, the text gives the tokens of the table.
-/

namespace ProfileBindings.Artifact

open C

/-! ## Trees -/

/-- The literal of a text, as a value. -/
def literal (s : String) : List Tree := [.text (Literal.escape s).toList]

/-- An operand as a tree. -/
def Operand.tree : Operand → Tree
  | zero => .number "0"
  | enumerator name => .word name

namespace ComponentEntry

/-- The pointers of the array of paths. -/
def pathTrees (paths : List String) : List Tree :=
  paths.flatMap (fun path => literal path ++ [.mark ","]) ++ [.word "NULL"]

/-- The fields for the enumerators. -/
def operandFields : Option Operands → List (String × List Tree)
  | none => []
  | some operands => [("input", [operands.input.tree]), ("output", [operands.output.tree])]

/-- The fields of an entry. -/
def fields (e : ComponentEntry) : List (String × List Tree) := [
  ("subaction_path", literal e.subaction),
  ("steamvr_path", literal e.steamvrPath),
  ("localized_name", literal e.localizedName),
  ("paths", [.group .curly (pathTrees e.paths)])] ++ operandFields e.operands

/-- The entry in its braces. -/
def trees (e : ComponentEntry) : List Tree := [.group .curly (recordTrees e.fields)]

end ComponentEntry

namespace ProfileEntry

/-- What stands between the braces of the array of components. -/
def componentTrees (e : ProfileEntry) : List Tree :=
  e.components.flatMap fun component => component.trees ++ [.mark ","]

/-- The fields of an entry. -/
def fields (e : ProfileEntry) : List (String × List Tree) := [
  ("name", [.word e.device]),
  ("path", literal e.path),
  ("localized_name", literal e.localizedName),
  ("steamvr_input_profile_path", literal e.steamvrInputProfilePath),
  ("steamvr_controller_type", literal e.steamvrControllerType),
  ("binding_count", [.number (toString e.components.length)]),
  ("bindings", [.group .round [.word "struct", .word "binding_template", .group .square []],
    .group .curly e.componentTrees])]

/-- The entry in its braces. -/
def trees (e : ProfileEntry) : List Tree := [.group .curly (recordTrees e.fields)]

end ProfileEntry

namespace ProfileTable

/-- What stands between the braces of the table. -/
def entryTrees (entries : List ProfileEntry) : List Tree :=
  entries.flatMap fun entry => entry.trees ++ [.mark ","]

/-- The definition of the table. -/
def trees (entries : List ProfileEntry) : List Tree := [
  .word "struct", .word "profile_template", .word "profile_templates",
  .group .square [.number (toString entries.length)], .mark "=", .group .curly (entryTrees entries),
  .mark ";"]

end ProfileTable

/-! ## Tokens of a component -/

/-- An operand is zero or an identifier. -/
def Operand.Clean : Operand → Prop
  | zero => True
  | enumerator name => Text.isIdentifier name = true

/-- Enumerators are printed as they are. -/
def ComponentEntry.Clean (e : ComponentEntry) : Prop :=
  ∀ operands ∈ e.operands, operands.input.Clean ∧ operands.output.Clean

/-- What is printed as it is can be. -/
structure ProfileEntry.Clean (e : ProfileEntry) : Prop where
  device : Text.isIdentifier e.device = true
  steamvrInputProfilePath : ∀ c ∈ e.steamvrInputProfilePath.toList, Literal.isPlain c = true
  steamvrControllerType : ∀ c ∈ e.steamvrControllerType.toList, Literal.isPlain c = true
  components : ∀ component ∈ e.components, component.Clean

theorem reads_commaLine : Reads (.between .plain) ",\n".toList [.atom (.mark ",")] .start :=
  Reads.literal rfl (by decide) rfl

/-- A line on which a text stands in front of a comma. -/
theorem readsLines_quote {l : Line} (hl : l.IsOpen) {before : String} {ts : List Token}
    (h : Reads .start before.toList ts (.between l)) (s : String) :
    ReadsLines [before ++ Literal.quote s ++ ","]
      (ts ++ Tree.tokensOf (literal s ++ [.mark ","])) := by
  apply ReadsLines.one
  have hall := (h.append_text (Literal.reads_quote hl s)).append_text reads_commaLine
  have htext : before ++ Literal.quote s ++ "," ++ "\n" = before ++ Literal.quote s ++ ",\n" := by
    apply String.toList_inj.mp
    simp
  rw [htext]
  simpa [literal, Tree.tokensOf, Tree.tokens] using hall

/-- A line that sets a field to a text. -/
theorem readsLines_text (before name : String)
    (h : Reads .start before.toList (Tree.tokensOf (fieldTrees name [])) (.between .plain)) (s : String) :
    ReadsLines [before ++ Literal.quote s ++ ","]
      (Tree.tokensOf (fieldTrees name []) ++ Tree.tokensOf (literal s ++ [.mark ","])) :=
  readsLines_quote (Or.inr rfl) h s

/-- A line that ends in a comment with a number. -/
theorem readsLines_numbered (before : String) (ts : List Token)
    (h : Reads .start before.toList ts ⟨.plain, .lineComment⟩) (n : Nat) :
    ReadsLines [before ++ toString n] ts := by
  have hdigits : Reads ⟨.plain, .lineComment⟩ (toString n).toList [] ⟨.plain, .lineComment⟩ := by
    apply Reads.of_loners
    · rw [List.all_eq_true]
      exact fun c hc => isLoner_of_isWordChar (isWordChar_of_isDigit (isDigit_of_mem_toString hc))
    · refine run_lineComment fun hmem => ?_
      exact absurd (isDigit_of_mem_toString hmem) (by decide)
  have hend : Reads ⟨.plain, .lineComment⟩ "\n".toList [] .start := Reads.literal rfl (by decide) rfl
  apply ReadsLines.one
  simpa using (h.append_text hdigits).append_text hend

namespace ComponentEntry

/-- A line that sets a field to an operand. -/
theorem readsLines_operand (before name : String) {operand : Operand} (hoperand : operand.Clean)
    (h : Reads .start before.toList (Tree.tokensOf (fieldTrees name [])) (.between .plain)) :
    ReadsLines [before ++ operand.print ++ ","]
      (Tree.tokensOf (fieldTrees name [operand.tree] ++ [.mark ","])) := by
  -- The operand is followed by a comma, which belongs to no number and no word.
  have hvalue : Reads (.between .plain) (operand.print ++ ",\n").toList
      (Tree.tokensOf [operand.tree, .mark ","]) .start := by
    cases operand with
    | zero => exact Reads.numeral (Or.inr rfl) (n := 0) rfl reads_commaLine
    | enumerator enumerator => exact Reads.identifier (Or.inr rfl) hoperand rfl reads_commaLine
  have htext : before ++ operand.print ++ "," ++ "\n" = before ++ (operand.print ++ ",\n") := by
    apply String.toList_inj.mp
    simp
  apply ReadsLines.one
  rw [htext]
  simpa [fieldTrees, Tree.tokensOf, Tree.tokens] using h.append_text hvalue

theorem readsLines_operands {operands : Option Operands}
    (h : ∀ o ∈ operands, o.input.Clean ∧ o.output.Clean) :
    ReadsLines (operandLines operands) (Tree.tokensOf (recordTrees (operandFields operands))) := by
  cases operands with
  | none => exact ReadsLines.nil
  | some operands =>
    have hclean := h operands rfl
    have hinput := readsLines_operand "\t\t\t\t.input = " "input" hclean.1
      (Reads.literal rfl (by decide) rfl)
    have houtput := readsLines_operand "\t\t\t\t.output = " "output" hclean.2
      (Reads.literal rfl (by decide) rfl)
    simpa [operandLines, operandFields, recordTrees, fieldTrees, Tree.tokensOf, Tree.tokens] using
      hinput.append houtput

theorem readsLines_paths (paths : List String) :
    ReadsLines (paths.map (fun path => "\t\t\t\t\t" ++ Literal.quote path ++ ",")
        ++ ["\t\t\t\t\tNULL", "\t\t\t\t\x7d, // /array of paths"])
      (Tree.tokensOf (pathTrees paths) ++ [.closing .curly, .atom (.mark ",")]) := by
  have hblank : Reads .start "\t\t\t\t\t".toList [] .start := Reads.literal rfl (by decide) rfl
  have hpaths := ReadsLines.map fun path (_ : path ∈ paths) => readsLines_quote (Or.inl rfl) hblank path
  have hnull : ReadsLines ["\t\t\t\t\tNULL"] [.atom (.word "NULL")] :=
    ReadsLines.literal rfl (by decide) rfl
  have hend : ReadsLines ["\t\t\t\t\x7d, // /array of paths"] [.closing .curly, .atom (.mark ",")] :=
    ReadsLines.literal rfl (by decide) rfl
  simpa [pathTrees, Tree.tokensOf_flatMap, Tree.tokensOf, Tree.tokens] using
    hpaths.append (hnull.append hend)

theorem readsLines_lines (index : Nat) {e : ComponentEntry} (h : e.Clean) :
    ReadsLines (lines index e) (Tree.tokensOf (e.trees ++ [.mark ","])) := by
  have hopen := readsLines_numbered "\t\t\t\x7b // binding_template " [.opening .curly]
    (Reads.literal rfl (by decide) rfl) index
  have hsubaction := readsLines_text "\t\t\t\t.subaction_path = " "subaction_path"
    (Reads.literal rfl (by decide) rfl) e.subaction
  have hsteamvr := readsLines_text "\t\t\t\t.steamvr_path = " "steamvr_path"
    (Reads.literal rfl (by decide) rfl) e.steamvrPath
  have hlocalized := readsLines_text "\t\t\t\t.localized_name = " "localized_name"
    (Reads.literal rfl (by decide) rfl) e.localizedName
  have hpaths : ReadsLines ["\t\t\t\t.paths = \x7b // array of paths"]
      (Tree.tokensOf (fieldTrees "paths" []) ++ [.opening .curly]) := ReadsLines.literal rfl (by decide) rfl
  have hclose := readsLines_numbered "\t\t\t\x7d, // /binding_template "
    [.closing .curly, .atom (.mark ",")] (Reads.literal rfl (by decide) rfl) index
  have hhead := (((hopen.append hsubaction).append hsteamvr).append hlocalized).append hpaths
  have hall := ((hhead.append (readsLines_paths e.paths)).append (readsLines_operands h)).append hclose
  simpa [lines, trees, fields, recordTrees, fieldTrees, Tree.tokensOf, Tree.tokens] using hall

end ComponentEntry

/-! ## Tokens of a profile and of the table -/

namespace ProfileEntry

variable {e : ProfileEntry}

theorem readsLines_device (h : Text.isIdentifier e.device = true) :
    ReadsLines ["\t\t.name = " ++ e.device ++ ","]
      (Tree.tokensOf (fieldTrees "name" [.word e.device] ++ [.mark ","])) := by
  have hbefore : Reads .start "\t\t.name = ".toList (Tree.tokensOf (fieldTrees "name" []))
      (.between .plain) := Reads.literal rfl (by decide) rfl
  have htext : "\t\t.name = " ++ e.device ++ "," ++ "\n" = "\t\t.name = " ++ (e.device ++ ",\n") := by
    apply String.toList_inj.mp
    simp
  apply ReadsLines.one
  rw [htext]
  exact hbefore.append_text (Reads.identifier (Or.inr rfl) h rfl reads_commaLine)

theorem readsLines_count (n : Nat) :
    ReadsLines ["\t\t.binding_count = " ++ toString n ++ ","]
      (Tree.tokensOf (fieldTrees "binding_count" [.number (toString n)] ++ [.mark ","])) := by
  have hbefore : Reads .start "\t\t.binding_count = ".toList
      (Tree.tokensOf (fieldTrees "binding_count" [])) (.between .plain) := Reads.literal rfl (by decide) rfl
  have htext : "\t\t.binding_count = " ++ toString n ++ "," ++ "\n"
      = "\t\t.binding_count = " ++ (toString n ++ ",\n") := by
    apply String.toList_inj.mp
    simp
  apply ReadsLines.one
  rw [htext]
  exact hbefore.append_text (Reads.numeral (Or.inr rfl) rfl reads_commaLine)

/-- A text that needs no escape may as well be quoted. -/
theorem quote_of_isPlain {s : String} (h : ∀ c ∈ s.toList, Literal.isPlain c = true)
    (before : String) : before ++ "\"" ++ s ++ "\"," = before ++ Literal.quote s ++ "," := by
  apply String.toList_inj.mp
  simp [Literal.quote, Literal.escape_of_isPlain h]

theorem readsLines_components (h : ∀ component ∈ e.components, component.Clean) :
    ReadsLines (e.components.zipIdx.flatMap fun item => ComponentEntry.lines item.2 item.1)
      (Tree.tokensOf e.componentTrees) := by
  have hitems : ReadsLines (e.components.zipIdx.flatMap fun item => ComponentEntry.lines item.2 item.1)
      (e.components.zipIdx.flatMap fun item => Tree.tokensOf (item.1.trees ++ [.mark ","])) := by
    refine ReadsLines.flatMap fun item hitem => ?_
    exact ComponentEntry.readsLines_lines item.2 (h item.1 (List.fst_mem_of_mem_zipIdx hitem))
  -- The numbers are in comments only, so they can be taken off again.
  have hzip : (e.components.zipIdx.flatMap fun item => Tree.tokensOf (item.1.trees ++ [.mark ","]))
      = Tree.tokensOf e.componentTrees := by
    have hfst := List.zipIdx_map_fst 0 e.components
    rw [componentTrees, Tree.tokensOf_flatMap]
    nth_rewrite 2 [← hfst]
    rw [List.flatMap_map]
  rwa [hzip] at hitems

set_option maxRecDepth 1000 in
theorem readsLines_lines (h : e.Clean) :
    ReadsLines (lines e) (Tree.tokensOf (e.trees ++ [.mark ","])) := by
  have hopen : ReadsLines ["\t\x7b // profile_template"] [.opening .curly] :=
    ReadsLines.literal rfl (by decide) rfl
  have hpath := readsLines_text "\t\t.path = " "path" (Reads.literal rfl (by decide) rfl) e.path
  have hlocalized := readsLines_text "\t\t.localized_name = " "localized_name"
    (Reads.literal rfl (by decide) rfl) e.localizedName
  have hfile := readsLines_text "\t\t.steamvr_input_profile_path = " "steamvr_input_profile_path"
    (Reads.literal rfl (by decide) rfl) e.steamvrInputProfilePath
  have htype := readsLines_text "\t\t.steamvr_controller_type = " "steamvr_controller_type"
    (Reads.literal rfl (by decide) rfl) e.steamvrControllerType
  have harray : ReadsLines ["\t\t.bindings = (struct binding_template[])\x7b // array of binding_template"]
      (Tree.tokensOf (fieldTrees "bindings"
        [.group .round [.word "struct", .word "binding_template", .group .square []]])
        ++ [.opening .curly]) := ReadsLines.literal rfl (by decide) rfl
  have harrayEnd : ReadsLines ["\t\t\x7d, // /array of binding_template"]
      [.closing .curly, .atom (.mark ",")] := ReadsLines.literal rfl (by decide) rfl
  have hclose : ReadsLines ["\t\x7d, // /profile_template"] [.closing .curly, .atom (.mark ",")] :=
    ReadsLines.literal rfl (by decide) rfl
  rw [← quote_of_isPlain h.steamvrInputProfilePath] at hfile
  rw [← quote_of_isPlain h.steamvrControllerType] at htype
  have hhead := ((hopen.append (readsLines_device h.device)).append hpath).append hlocalized
  have hsteamvr := (hhead.append hfile).append htype
  have harrays := (hsteamvr.append (readsLines_count e.components.length)).append harray
  have hall := (harrays.append (readsLines_components h.components)).append (harrayEnd.append hclose)
  simpa [lines, trees, fields, recordTrees, fieldTrees, Tree.tokensOf, Tree.tokens] using hall

end ProfileEntry

namespace ProfileTable

theorem readsLines_opening (size : Nat) :
    ReadsLines ["struct profile_template profile_templates[" ++ toString size
        ++ "] = \x7b // array of profile_template"]
      (Tree.tokensOf [.word "struct", .word "profile_template", .word "profile_templates",
        .group .square [.number (toString size)], .mark "="] ++ [.opening .curly]) := by
  have hstruct : Reads .start "struct profile_template profile_templates[".toList
      (Tree.tokensOf [.word "struct", .word "profile_template", .word "profile_templates"]
        ++ [.opening .square]) (.between .plain) := Reads.literal rfl (by decide) rfl
  have hbrace : Reads (.between .plain) "] = \x7b // array of profile_template\n".toList
      [.closing .square, .atom (.mark "="), .opening .curly] .start := Reads.literal rfl (by decide) rfl
  have htext : "struct profile_template profile_templates[" ++ toString size
      ++ "] = \x7b // array of profile_template" ++ "\n" = "struct profile_template profile_templates["
      ++ (toString size ++ "] = \x7b // array of profile_template\n") := by
    apply String.toList_inj.mp
    simp
  apply ReadsLines.one
  rw [htext]
  exact hstruct.append_text (Reads.numeral (Or.inr rfl) rfl hbrace)

theorem reads_print {entries : List ProfileEntry} (h : ∀ e ∈ entries, e.Clean) :
    Reads .start (print entries).toList (Tree.tokensOf (trees entries)) .start := by
  have hblank : Reads .start "\n\n".toList [] .start := Reads.literal rfl (by decide) rfl
  have hentries := ReadsLines.flatMap fun e he => ProfileEntry.readsLines_lines (h e he)
  have hclose : ReadsLines ["\x7d; // /array of profile_template"] [.closing .curly, .atom (.mark ";")] :=
    ReadsLines.literal rfl (by decide) rfl
  have hempty : ReadsLines [""] [] := ReadsLines.blank
  have hlines := ((readsLines_opening entries.length).append hentries).append (hclose.append hempty)
  have hall := hblank.append_text hlines
  simpa [print, trees, entryTrees, Tree.tokensOf_flatMap, Tree.tokensOf, Tree.tokens] using hall

end ProfileTable

end ProfileBindings.Artifact
