import ProfileBindings.Proofs.Artifact.Preamble
import ProfileBindings.Proofs.Artifact.Sound
import ProfileBindings.Proofs.C.Comments

/-!
# The comment at the head of an artifact

In front of its directives an artifact has a banner: a line with its license, if it has one, and a block comment.
Without comments only white space is left of it, unless the license ends in a backslash. Such a license takes the
line behind it into its comment, and with it the opening of the block.

* `directives` : the inclusions, and what else stands between the banner and the definitions;
* `Vanishes` : only white space is left of a banner, and the directives stay as they are.

Main statements:
* `exists_shows_banner` : what is left of a banner whose license does not end in a backslash;
* `withoutComments_of_backslash` : what is left if it does;
* `banner_vanishes_iff` : a banner vanishes exactly if its license does not end in a backslash.
-/

namespace ProfileBindings.Artifact

open C

/-- The directives behind the banner, with the blank line in front of them. -/
def directives (k : Kind) (config : Config) : String :=
  match k with
  | .source => lines ["", "#include \"" ++ config.headerInclude ++ "\"", "#include <string.h>", ""]
  | .header => lines ["", "#pragma once", "", "#include <stddef.h>", "",
      "#include \"" ++ config.definesInclude ++ "\"", ""]

/-- Without comments, only white space is left of the banner, and the directives are left as they are. -/
def Vanishes (banner directives rest : String) : Prop :=
  ∃ white : List Char, (∀ c ∈ white, isWhite c = true) ∧
    withoutComments (banner ++ directives ++ rest) = white ++ directives.toList ++ withoutComments rest

variable {k : Kind} {config : Config} {d : Document} {text : String}

/-- An artifact begins with its banner and its directives. -/
theorem exists_rest (hrender : render k config d = .ok text) :
    config.Valid ∧ ∃ rest, text = (bannerOf k config.spdxLicense).print ++ directives k config ++ rest := by
  cases k with
  | source =>
    obtain ⟨hvalid, -, -, rfl⟩ := render_source_eq_ok_iff.mp hrender
    have hsplit : lines ["", "#include \"" ++ config.headerInclude ++ "\"", "#include <string.h>", "",
        "// clang-format off"] = directives .source config ++ "// clang-format off\n" := by
      apply String.toList_inj.mp
      simp [directives, lines]
    let s := Source.assemble config d
    refine ⟨hvalid, "// clang-format off\n" ++ String.join (s.verifyFunctions.map VerifyFunction.print)
      ++ ProfileTable.print s.profiles ++ s.inputs.print ++ s.outputs.print ++ lines ["", "// clang-format on"], ?_⟩
    rw [Source.print, Source.assemble, hsplit]
    simp only [String.append_assoc]
    rfl
  | header =>
    obtain ⟨hvalid, -, rfl⟩ := render_header_eq_ok_iff.mp hrender
    have hsplit : lines ["", "#pragma once", "", "#include <stddef.h>", "",
        "#include \"" ++ config.definesInclude ++ "\"", "", "// clang-format off"]
        = directives .header config ++ "// clang-format off\n" := by
      apply String.toList_inj.mp
      simp [directives, lines]
    let h := Header.assemble config d
    refine ⟨hvalid, "// clang-format off\n" ++ String.join (h.verifyFunctions.map VerifyFunction.prototype)
      ++ lines h.tableLines ++ NameFunctions.prototypes .input ++ NameFunctions.prototypes .output
      ++ lines ["", "// clang-format on"], ?_⟩
    rw [Header.print, Header.assemble, hsplit]
    simp only [String.append_assoc]
    rfl

/-! ## Directives -/

/-- What stands in front of the header that the configuration names. -/
def opening : Kind → String
  | .source => "\n#include \""
  | .header => "\n#pragma once\n\n#include <stddef.h>\n\n#include \""

/-- The header that the configuration names. -/
def includePath (k : Kind) (config : Config) : String :=
  match k with
  | .source => config.headerInclude
  | .header => config.definesInclude

/-- What stands behind it. -/
def closing : Kind → String
  | .source => "\n#include <string.h>\n\n"
  | .header => "\n\n"

theorem directives_eq : directives k config = opening k ++ (includePath k config ++ "\"") ++ closing k := by
  apply String.toList_inj.mp
  cases k <;> simp [directives, opening, includePath, closing, lines]

theorem shows_directives (h : config.Valid) :
    Shows .start (directives k config).toList (directives k config).toList .start := by
  have hpath : '\n' ∉ (includePath k config).toList ∧ '"' ∉ (includePath k config).toList := by
    cases k with
    | source => exact Config.not_mem_of_isIncludePath h.headerInclude
    | header => exact Config.not_mem_of_isIncludePath h.definesInclude
  have hopening : Shows .start (opening k).toList (opening k).toList ⟨.inclusion, .headerName '"' []⟩ := by
    cases k <;> exact .literal rfl rfl rfl rfl
  have hname : Shows ⟨.inclusion, .headerName '"' []⟩ (includePath k config ++ "\"").toList
      (includePath k config ++ "\"").toList (.between .directive) := by
    rw [String.toList_append]
    exact shows_headerName hpath.1 hpath.2
  have hclosing : Shows (.between .directive) (closing k).toList (closing k).toList .start := by
    cases k <;> exact .literal rfl rfl rfl rfl
  have hall := (hopening.append_text hname).append_text hclosing
  rwa [← String.toList_append, ← String.toList_append, ← directives_eq] at hall

/-! ## Banners -/

theorem shows_block (k : Kind) :
    Shows .start ("/*!" ++ "\n" ++ (lines (blockLines k) ++ (" */" ++ "\n"))).toList [' ', '\n'] .start := by
  have hclean : '/' ∉ ("!\n" ++ lines (blockLines k) ++ " ").toList ∧
      '\\' ∉ ("!\n" ++ lines (blockLines k) ++ " ").toList := by
    simp only [lines, blockLines, List.map_cons, List.map_nil, String.join_cons, String.join_nil, String.toList_append]
    cases k <;> decide +kernel
  have hblock := shows_blockComment (l := .fresh) hclean.1 hclean.2
  have hend : Shows .start ['\n'] ['\n'] .start := .of_apart (.of_not_mem (by decide)) rfl rfl
  have hparts : ("/*!" ++ "\n" ++ (lines (blockLines k) ++ (" */" ++ "\n"))).toList
      = '/' :: '*' :: (("!\n" ++ lines (blockLines k) ++ " ").toList ++ ['*', '/']) ++ ['\n'] := by
    simp [String.toList_append]
  rw [hparts]
  exact hblock.append hend

theorem shows_opening : Shows .start "// SPDX-License-Identifier: ".toList [] ⟨.fresh, .lineComment⟩ :=
  .literal rfl rfl rfl rfl

theorem print_bannerOf_none : (bannerOf k none).print
    = "/*!" ++ "\n" ++ (lines (blockLines k) ++ (" */" ++ "\n")) := by
  have hnone : lines (bannerOf k none).licenseLines = "" := by cases k <;> rfl
  rw [print_bannerOf, hnone, String.empty_append]

theorem print_bannerOf_some (license : String) : (bannerOf k (some license)).print
    = "// SPDX-License-Identifier: " ++ (license ++ "\n")
      ++ ("/*!" ++ "\n" ++ (lines (blockLines k) ++ (" */" ++ "\n"))) := by
  have hsome : lines (bannerOf k (some license)).licenseLines
      = "// SPDX-License-Identifier: " ++ (license ++ "\n") := by
    cases k <;> simp [bannerOf, Banner.licenseLines, lines, String.append_assoc]
  rw [print_bannerOf, hsome]

/-- White space is left of a banner whose license does not end in a backslash. -/
theorem exists_shows_banner {spdxLicense : Option String}
    (hline : ∀ license ∈ spdxLicense, '\n' ∉ license.toList)
    (hlast : ∀ license ∈ spdxLicense, license.toList.getLast? ≠ some '\\') :
    ∃ white : List Char, (∀ c ∈ white, isWhite c = true) ∧
      Shows .start (bannerOf k spdxLicense).print.toList white .start := by
  cases spdxLicense with
  | none =>
    rw [print_bannerOf_none]
    exact ⟨[' ', '\n'], List.all_eq_true.mp rfl, shows_block k⟩
  | some license =>
    have hlicense : Shows ⟨.fresh, .lineComment⟩ (license ++ "\n").toList ['\n'] .start := by
      rw [String.toList_append]
      exact shows_lineComment (hline license rfl) (hlast license rfl)
    rw [print_bannerOf_some]
    exact ⟨['\n', ' ', '\n'], List.all_eq_true.mp rfl,
      (shows_opening.append_text hlicense).append_text (shows_block k)⟩

/-- A license that ends in a backslash takes the opening of the block into its comment: what is left begins like
the first line of the block. -/
theorem withoutComments_of_backslash {license : String} (hline : '\n' ∉ license.toList)
    (hlast : license.toList.getLast? = some '\\') (rest : String) :
    ∃ tail, withoutComments ((bannerOf k (some license)).print ++ rest) = '\n' :: ' ' :: '*' :: tail := by
  obtain ⟨cs, hcs⟩ := List.getLast?_eq_some_iff.mp hlast
  have hbody : '\n' ∉ cs := fun hmem => hline (by simp [hcs, hmem])
  have hlicense : Shows ⟨.fresh, .lineComment⟩ (license ++ "\n" ++ ("/*!" ++ "\n")).toList ['\n'] .start := by
    have hparts : (license ++ "\n" ++ ("/*!" ++ "\n")).toList
        = cs ++ '\\' :: '\n' :: (['/', '*', '!'] ++ ['\n']) := by
      simp [String.toList_append, hcs]
    rw [hparts]
    exact shows_joinedComment hbody (by decide) (by decide)
  have hstar : Shows .start " *".toList [' ', '*'] ⟨.fresh, .mark ['*']⟩ := .literal rfl rfl rfl rfl
  have hblock : lines (blockLines k) = " *" ++ (" @file\n" ++ lines (blockLines k).tail) := by
    apply String.toList_inj.mp
    simp [blockLines, lines]
  have htext : (bannerOf k (some license)).print ++ rest
      = "// SPDX-License-Identifier: " ++ (license ++ "\n" ++ ("/*!" ++ "\n")) ++ " *"
        ++ (" @file\n" ++ lines (blockLines k).tail ++ (" */" ++ "\n") ++ rest) := by
    rw [print_bannerOf_some, hblock]
    simp only [String.append_assoc]
  have hall := (shows_opening.append_text hlicense).append_text hstar
  rw [withoutComments, htext, String.toList_append, hall]
  exact ⟨_, rfl⟩

/-- What is left then does not begin like the directives. -/
theorem not_vanishes_of_backslash {license : String} (hline : '\n' ∉ license.toList)
    (hlast : license.toList.getLast? = some '\\') (rest : String) :
    ¬Vanishes (bannerOf k (some license)).print (directives k config) rest := by
  rintro ⟨white, hwhite, hleft⟩
  have hdirectives : ∃ more, (directives k config).toList = '\n' :: '#' :: more := by
    rw [directives_eq]
    cases k <;> exact ⟨_, by simp [opening]; rfl⟩
  obtain ⟨more, hmore⟩ := hdirectives
  obtain ⟨tail, htail⟩ := withoutComments_of_backslash (k := k) hline hlast (directives k config ++ rest)
  rw [← String.append_assoc, hleft, hmore, List.append_assoc] at htail
  -- The first character that is no white space would be both.
  have hfirst := congrArg (List.dropWhile isWhite) htail
  rw [List.dropWhile_append_of_pos hwhite] at hfirst
  simp [List.dropWhile, isWhite, isBlank] at hfirst

/-- A banner vanishes with the comments, exactly if its license does not end in a backslash. -/
theorem banner_vanishes_iff (hrender : render k config d = .ok text) :
    ∃ rest, text = (bannerOf k config.spdxLicense).print ++ directives k config ++ rest ∧
      (Vanishes (bannerOf k config.spdxLicense).print (directives k config) rest ↔
        ∀ license ∈ config.spdxLicense, license.toList.getLast? ≠ some '\\') := by
  obtain ⟨hvalid, rest, htext⟩ := exists_rest hrender
  have hline : ∀ license ∈ config.spdxLicense, '\n' ∉ license.toList := fun license hlicense =>
    Config.not_mem_of_isLicense (hvalid.license license hlicense)
  refine ⟨rest, htext, ?_, ?_⟩
  · intro hvanishes license hlicense hlast
    rw [Option.mem_def.mp hlicense] at hvanishes
    exact not_vanishes_of_backslash (hline license hlicense) hlast rest hvanishes
  · intro hlast
    obtain ⟨white, hwhite, hbanner⟩ := exists_shows_banner hline hlast
    exact ⟨white, hwhite, (hbanner.append_text (shows_directives hvalid)).withoutComments_eq⟩

/-! ## Two licenses -/

/-- The standard configuration with a license. -/
def licensed (license : String) : Config := { Config.standard with spdxLicense := some license }

theorem render_licensed {license : String} (h : (licensed license).check = .ok ()) :
    render .source (licensed license) simpleDocument
      = .ok (Source.assemble (licensed license) simpleDocument).print :=
  render_source_of_sound (Config.check_eq_ok_iff.mp h) (Check.hasErrors_eq_false_iff.mp hasErrors_simpleDocument)
    (by simp [simpleDocument])

/-- A license with a backslash in it, and a quote at its end. -/
theorem banner_vanishes_quoted :
    ∃ text rest, render .source (licensed "a \\n \"") simpleDocument = .ok text ∧
      text = (bannerOf .source (some "a \\n \"")).print ++ directives .source (licensed "a \\n \"") ++ rest ∧
      Vanishes (bannerOf .source (some "a \\n \"")).print (directives .source (licensed "a \\n \"")) rest := by
  have hcheck : (licensed "a \\n \"").check = .ok () := rfl
  have hrender := render_licensed hcheck
  obtain ⟨rest, htext, hvanishes⟩ := banner_vanishes_iff hrender
  refine ⟨_, rest, hrender, htext, hvanishes.mpr ?_⟩
  rintro license hlicense
  obtain rfl : "a \\n \"" = license := Option.some.inj hlicense
  decide

/-- A license that ends in a backslash is valid, and its banner does not vanish. -/
theorem banner_of_backslash_stays :
    (licensed "BSL-1.0\\").check = .ok () ∧
      ∃ text rest, render .source (licensed "BSL-1.0\\") simpleDocument = .ok text ∧
        text = (bannerOf .source (some "BSL-1.0\\")).print ++ directives .source (licensed "BSL-1.0\\") ++ rest ∧
        ¬Vanishes (bannerOf .source (some "BSL-1.0\\")).print (directives .source (licensed "BSL-1.0\\")) rest := by
  have hcheck : (licensed "BSL-1.0\\").check = .ok () := rfl
  have hrender := render_licensed hcheck
  obtain ⟨-, rest, htext⟩ := exists_rest hrender
  exact ⟨hcheck, _, rest, hrender, htext, not_vanishes_of_backslash (by decide) (by decide) rest⟩

end ProfileBindings.Artifact
