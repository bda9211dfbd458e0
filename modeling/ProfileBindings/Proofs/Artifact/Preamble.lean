import ProfileBindings.Artifact.Render
import ProfileBindings.Files.Basic
import ProfileBindings.Proofs.C.Macro

/-!
# The heads of the artifacts

In front of what an artifact declares or defines stand a comment and inclusions. They give no tokens, with one
exception: a license may end in a backslash, which joins its line with the beginning of the block comment
behind it, so that the rest of the block is read as code. What is read then is a row of tokens without
brackets, up to the slash that was to end the comment.

* `BlockLine` : a line of a block comment that can be read as code;
* `Remains` : what is left of the comment.

Main statements: `contributes_banner`, `contributes_include` and `Source.reads_head`.
-/

namespace ProfileBindings.Artifact

open C

/-! ## Comments -/

/-- Two slashes begin a comment, and the end of the line ends it. -/
theorem contributes_slashes {text : String} {cs : List Char} (h : HasLines text.toList ['/' :: '/' :: cs]) :
    Contributes text [] [] := by
  have hcs : '\n' ∉ cs := fun hmem => h.ended _ List.mem_cons_self (by simp [hmem])
  have hline : isDirective ('/' :: '/' :: cs) = false := rfl
  have hrun : run .start ('/' :: '/' :: cs ++ ['\n']) = ([], .start) := by
    show run ⟨.fresh, .lineComment⟩ (cs ++ ['\n']) = _
    rw [run_append, run_lineComment hcs]
    rfl
  exact .of_noDirectives ⟨_, h, by simpa using hline⟩ (h.reads hrun)

/-- A license is a line, or it goes on up to the end of the next one. -/
theorem hasLines_license {license : String} (h : '\n' ∉ license.toList) :
    ∃ ds, HasLines (license ++ "\n").toList [ds] ∨ HasLines (license ++ "\n" ++ ("/*!" ++ "\n")).toList [ds] := by
  obtain ⟨ds, hds, hkeeps | hloses⟩ := phases_append_newline h
  -- Either the newline behind the license stays, or a backslash has taken it away.
  · refine ⟨ds, Or.inl ⟨fun rest => ?_, by simpa using hds⟩⟩
    rw [String.toList_append, List.append_assoc]
    show phases (license.toList ++ '\n' :: rest) = _
    rw [hkeeps]
    simp
  · refine ⟨ds ++ ['/', '*', '!'], Or.inr ⟨fun rest => ?_, by simpa using hds⟩⟩
    rw [String.toList_append, String.toList_append, List.append_assoc, List.append_assoc]
    show phases (license.toList ++ '\n' :: (['/', '*', '!', '\n'] ++ rest)) = _
    rw [hloses, calm_of_loners (by decide)]
    simp

/-- The line of a license is a comment, or it goes on: then the first line of the block ends it. -/
theorem contributes_license {license : String} (h : '\n' ∉ license.toList) :
    Contributes ("// SPDX-License-Identifier: " ++ (license ++ "\n")) [] [] ∨
      Contributes ("// SPDX-License-Identifier: " ++ (license ++ "\n" ++ ("/*!" ++ "\n"))) [] [] := by
  have hslashes : ∀ {s : String} {ds : List Char}, HasLines s.toList [ds] →
      Contributes ("// SPDX-License-Identifier: " ++ s) [] [] := by
    intro s ds hs
    have hlines := hs.prepend (s := "// SPDX-License-Identifier: ") (by decide) (by decide)
    rw [← String.toList_append] at hlines
    exact contributes_slashes hlines
  obtain ⟨ds, hline | hlines⟩ := hasLines_license h
  · exact Or.inl (hslashes hline)
  · exact Or.inr (hslashes hlines)

/-! ## Block comments -/

/-- What is left of a comment that is read as code: nothing, or tokens up to the slash that was to end it. -/
def Remains (atoms : List Atom) : Prop := atoms = [] ∨ ∃ front, atoms = front ++ [.mark "/"]

/-- Within a block comment, at the beginning of a line. -/
abbrev inBlock : Position := ⟨.fresh, .blockComment false⟩

/-- A line that a block comment goes on behind, and that gives no brackets if it is read as code. -/
structure BlockLine (line : String) : Prop where
  inside : Reads inBlock (line ++ "\n").toList [] inBlock
  bare : ∃ atoms : List Atom, Reads .start (line ++ "\n").toList (atoms.map .atom) .start
  noDirectives : NoDirectives (line ++ "\n").toList

/-- A fixed line, spelled out. -/
theorem BlockLine.literal {line : String} {cs : List Char} (atoms : List Atom) (hs : line = String.ofList cs)
    (calm : (cs.all isLoner && !cs.contains '\n' && !isDirective cs) = true)
    (hinside : run inBlock (cs ++ ['\n']) = ([], inBlock))
    (hbare : run .start (cs ++ ['\n']) = (atoms.map .atom, .start)) : BlockLine line := by
  simp only [Bool.and_eq_true, Bool.not_eq_true'] at calm
  have hended : '\n' ∉ cs := by simpa using calm.1.2
  have hline : line.toList = cs := by rw [hs, String.toList_ofList]
  refine ⟨.line hs calm.1.1 hinside, ⟨atoms, .line hs calm.1.1 hbare⟩, ?_⟩
  subst hline
  exact .one calm.1.1 hended calm.2

section BlockLines

variable {l : List String}

theorem reads_inside (h : ∀ line ∈ l, BlockLine line) : Reads inBlock (lines l).toList [] inBlock := by
  induction l with
  | nil => exact .nil
  | cons line l ih =>
    obtain ⟨hline, hl⟩ := List.forall_mem_cons.mp h
    exact hline.inside.lines_cons (ih hl)

theorem reads_bare (h : ∀ line ∈ l, BlockLine line) :
    ∃ atoms : List Atom, Reads .start (lines l).toList (atoms.map .atom) .start := by
  induction l with
  | nil => exact ⟨[], .nil⟩
  | cons line l ih =>
    obtain ⟨hline, hl⟩ := List.forall_mem_cons.mp h
    obtain ⟨first, hfirst⟩ := hline.bare
    obtain ⟨rest, hrest⟩ := ih hl
    refine ⟨first ++ rest, ?_⟩
    rw [List.map_append]
    exact hfirst.lines_cons hrest

/-- A block comment. -/
theorem contributes_block (h : ∀ line ∈ l, BlockLine line) :
    Contributes ("/*!" ++ "\n" ++ (lines l ++ (" */" ++ "\n"))) [] [] := by
  have hopen : Reads .start ("/*!" ++ "\n").toList [] inBlock := .line rfl (by decide) rfl
  have hclose : Reads inBlock (" */" ++ "\n").toList [] .start := .line rfl (by decide) rfl
  have hfirst : NoDirectives ("/*!" ++ "\n").toList := .one (by decide) (by decide) rfl
  have hlast : NoDirectives (" */" ++ "\n").toList := .one (by decide) (by decide) rfl
  have hlines := NoDirectives.lines fun line hline => (h line hline).noDirectives
  exact .of_noDirectives (hfirst.append_text (hlines.append_text hlast))
    (hopen.append_text ((reads_inside h).append_text hclose))

/-- What is left of a block comment without its first line. -/
theorem contributes_remains (h : ∀ line ∈ l, BlockLine line) :
    ∃ atoms, Remains atoms ∧ Contributes (lines l ++ (" */" ++ "\n")) (atoms.map .atom) [] := by
  obtain ⟨atoms, hatoms⟩ := reads_bare h
  have hlines := NoDirectives.lines fun line hline => (h line hline).noDirectives
  have hend : Contributes (" */" ++ "\n") ([.mark "*", .mark "/"].map .atom) [] := .literal rfl rfl rfl rfl
  refine ⟨atoms ++ [.mark "*", .mark "/"], Or.inr ⟨atoms ++ [.mark "*"], by simp⟩, ?_⟩
  rw [List.map_append]
  exact Contributes.append (.of_noDirectives hlines hatoms) hend

end BlockLines

/-! ## Banners -/

/-- The banner of an artifact. -/
def bannerOf (k : Kind) (spdxLicense : Option String) : Banner :=
  match k with
  | .source => ⟨"Generated bindings data", "oxr_main", spdxLicense⟩
  | .header => ⟨"Generated bindings data header", "oxr_api", spdxLicense⟩

/-- The line that says what the artifact is. -/
def briefLine : Kind → String
  | .source => " * @brief  Generated bindings data."
  | .header => " * @brief  Generated bindings data header."

/-- The line with the group that it belongs to. -/
def groupLine : Kind → String
  | .source => " * @ingroup oxr_main"
  | .header => " * @ingroup oxr_api"

/-- The lines of the block comment between the first and the last. -/
def blockLines (k : Kind) : List String := [
  " * @file",
  briefLine k,
  " *",
  " * Generated by xrbind from an interaction profile document.",
  " * Do not edit: changes are lost on the next build.",
  " *",
  groupLine k]

theorem print_bannerOf (k : Kind) (spdxLicense : Option String) : (bannerOf k spdxLicense).print
    = lines (bannerOf k spdxLicense).licenseLines
      ++ ("/*!" ++ "\n" ++ (lines (blockLines k) ++ (" */" ++ "\n"))) := by
  have hlines : (bannerOf k spdxLicense).print
      = lines ((bannerOf k spdxLicense).licenseLines ++ ("/*!" :: blockLines k ++ [" */"])) := by
    cases k <;> rfl
  rw [hlines]
  simp only [lines, List.map_append, List.map_cons, List.map_nil, String.join_append, String.join_cons,
    String.join_nil, String.append_empty, String.append_assoc]

set_option maxRecDepth 2000 in
theorem blockLine_of_mem (k : Kind) : ∀ line ∈ blockLines k, BlockLine line := by
  have hstar : BlockLine " *" := .literal [.mark "*"] rfl rfl rfl rfl
  have hfile : BlockLine " * @file" := .literal [.mark "*", .stray '@', .word "file"] rfl rfl rfl rfl
  have horigin : BlockLine " * Generated by xrbind from an interaction profile document." :=
    .literal [.mark "*", .word "Generated", .word "by", .word "xrbind", .word "from", .word "an",
      .word "interaction", .word "profile", .word "document", .mark "."] rfl (by decide) rfl rfl
  have hwarning : BlockLine " * Do not edit: changes are lost on the next build." :=
    .literal [.mark "*", .word "Do", .word "not", .word "edit", .mark ":", .word "changes", .word "are",
      .word "lost", .word "on", .word "the", .word "next", .word "build", .mark "."]
      rfl (by decide) rfl rfl
  have hbrief : BlockLine (briefLine k) := by
    cases k with
    | source => exact .literal [.mark "*", .stray '@', .word "brief", .word "Generated", .word "bindings",
        .word "data", .mark "."] rfl rfl rfl rfl
    | header => exact .literal [.mark "*", .stray '@', .word "brief", .word "Generated", .word "bindings",
        .word "data", .word "header", .mark "."] rfl rfl rfl rfl
  have hgroup : BlockLine (groupLine k) := by
    cases k with
    | source => exact .literal [.mark "*", .stray '@', .word "ingroup", .word "oxr_main"] rfl rfl rfl rfl
    | header => exact .literal [.mark "*", .stray '@', .word "ingroup", .word "oxr_api"] rfl rfl rfl rfl
  unfold blockLines
  simp only [List.forall_mem_cons]
  exact ⟨hfile, hbrief, hstar, horigin, hwarning, hstar, hgroup, by simp⟩

variable {k : Kind} {spdxLicense : Option String}

/-- A banner gives nothing, or what is left of it behind a license that goes on. -/
theorem contributes_banner (h : ∀ license ∈ spdxLicense, '\n' ∉ license.toList) :
    ∃ atoms, Remains atoms ∧ Contributes (bannerOf k spdxLicense).print (atoms.map .atom) [] := by
  have hblock := contributes_block (blockLine_of_mem k)
  rw [print_bannerOf]
  cases spdxLicense with
  | none =>
    have hnone : lines (bannerOf k none).licenseLines = "" := by cases k <;> rfl
    rw [hnone, String.empty_append]
    exact ⟨[], Or.inl rfl, hblock⟩
  | some license =>
    have hsome : lines (bannerOf k (some license)).licenseLines
        = "// SPDX-License-Identifier: " ++ (license ++ "\n") := by
      cases k <;> simp [bannerOf, Banner.licenseLines, lines, String.append_assoc]
    rw [hsome]
    -- The block stays a comment, or it loses its first line to the license and is read as code.
    rcases contributes_license (h license rfl) with hline | hline
    · exact ⟨[], Or.inl rfl, hline.append hblock⟩
    · obtain ⟨atoms, hatoms, hrest⟩ := contributes_remains (blockLine_of_mem k)
      have hall := hline.append hrest
      simp only [String.append_assoc, List.nil_append] at hall ⊢
      exact ⟨atoms, hatoms, hall⟩

/-! ## Inclusions -/

/-- The inclusion of a header gives neither tokens nor macros. -/
theorem contributes_include {path : String} (h : '\n' ∉ path.toList ∧ '"' ∉ path.toList) :
    Contributes ("#include \"" ++ path ++ "\"" ++ "\n") [] [] := by
  obtain ⟨ds, hnewline, hquote, hphases⟩ := phases_append_quote h.1 h.2
  have hpath : HasLines (path ++ ("\"" ++ "\n")).toList [ds ++ ['"']] := by
    refine ⟨fun rest => ?_, by simpa using hnewline⟩
    rw [String.toList_append, List.append_assoc]
    show phases (path.toList ++ '"' :: ('\n' :: rest)) = _
    rw [hphases, phases_cons_of_isLoner (by decide)]
    simp
  have hlines : HasLines ("#include \"" ++ path ++ "\"" ++ "\n").toList
      ["#include \"".toList ++ (ds ++ ['"'])] := by
    rw [String.append_assoc, String.append_assoc, String.toList_append]
    exact hpath.prepend (by decide) (by decide)
  have hopening : run .start "#include \"".toList = ([], ⟨.inclusion, .headerName '"' []⟩) := rfl
  have hrun : run .start ("#include \"".toList ++ (ds ++ ['"']) ++ ['\n']) = ([], .start) := by
    rw [List.append_assoc, run_append, hopening, List.append_assoc, run_append, run_headerName hnewline hquote]
    rfl
  -- For the macro the line is read again without its beginning, as if it were no directive.
  have hword : run (.between .plain) "include \"".toList
      = ([.atom (.word "include")], ⟨.plain, .literal '"' []⟩) := rfl
  have hspelled : "#include \"".toList = '#' :: "include \"".toList := rfl
  have hnone : macrosFrom .start ["#include \"".toList ++ (ds ++ ['"'])] = [] := by
    rw [hspelled]
    exact macrosFrom_of_ne hword (by decide)
  exact ⟨hlines.reads hrun, hnone ▸ .of_lines hlines (hlines.reads hrun)⟩

/-- What stands in front of the definitions gives no brackets. -/
theorem reads_head {s : Source} (hlicense : ∀ license ∈ s.spdxLicense, '\n' ∉ license.toList)
    (hpath : '\n' ∉ s.headerInclude.toList ∧ '"' ∉ s.headerInclude.toList) :
    ∃ atoms, Remains atoms ∧ Reads .start (s.banner.print ++ lines ["", "#include \"" ++ s.headerInclude ++ "\"",
      "#include <string.h>", "", "// clang-format off"]).toList (atoms.map .atom) .start := by
  obtain ⟨atoms, hremains, hbanner⟩ := contributes_banner (k := .source) hlicense
  have hrest : Reads .start "#include <string.h>\n\n// clang-format off\n".toList [] .start :=
    Reads.literal rfl (by decide) rfl
  have hblank : Reads .start "\n".toList [] .start := Reads.literal rfl (by decide) rfl
  have htext : lines ["", "#include \"" ++ s.headerInclude ++ "\"", "#include <string.h>", "",
      "// clang-format off"] = "\n" ++ ("#include \"" ++ s.headerInclude ++ "\"" ++ "\n"
        ++ "#include <string.h>\n\n// clang-format off\n") := by
    apply String.toList_inj.mp
    simp [lines]
  rw [htext]
  have hall := hbanner.reads.append_text (hblank.append_text ((contributes_include hpath).reads.append_text hrest))
  simp only [List.append_nil] at hall
  exact ⟨atoms, hremains, hall⟩

end ProfileBindings.Artifact
