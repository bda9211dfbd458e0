import ProfileBindings.Proofs.Pattern.Language
import ProfileBindings.Proofs.Pattern.Reading
import ProfileBindings.Proofs.Text.Segments
import ProfileBindings.Schema.Bindings
import ProfileBindings.Text.Words

/-!
# The texts of a bindings document

What the patterns of the schema match, said without patterns: runs of characters, and paths by their steps.
Each pattern stands in the schema together with a text, the form in which it is written and shown.

* `IsRun` : a text of characters of one kind, not the empty one;
* `IsSubPathPath`, `IsSubactionPath`, `IsProfilePath` : the paths of a document by their steps;
* `IsWrittenForm` : a text stands for a pattern;
* `Schema.patterns` : the patterns of a schema with their written forms.

Main statements:
* `profilePath_iff`, `identifier_iff`, `subactionPath_iff`, `subPathPath_iff`, `componentName_iff` : what the
  patterns match;
* `isWrittenForm_of_mem_patterns` : they match what their written forms do.
-/

namespace ProfileBindings

/-! ## Sets of characters -/

namespace CharSet

variable {c d : Char}

theorem ranges_cons {first last : Char} {rest : List (Char × Char)} :
    ranges ((first, last) :: rest) c = true ↔ (first ≤ c ∧ c ≤ last) ∨ ranges rest c = true := by
  simp [ranges]

theorem single_iff : single c d = true ↔ d = c := by
  have hle : (c ≤ d ∧ d ≤ c) ↔ d = c :=
    ⟨fun h => Char.le_antisymm h.2 h.1, fun h => h ▸ ⟨Char.le_refl _, Char.le_refl _⟩⟩
  simpa [single, ranges] using hle

theorem upper_iff : ('A' ≤ c ∧ c ≤ 'Z') ↔ c.isUpper = true := by
  have hupper : c.isUpper = decide (c.val ≥ 'A'.val ∧ c.val ≤ 'Z'.val) := rfl
  simp [hupper, Char.le_def]

theorem lower_iff : ('a' ≤ c ∧ c ≤ 'z') ↔ c.isLower = true := by
  have hlower : c.isLower = (decide (c.val ≥ 'a'.val) && decide (c.val ≤ 'z'.val)) := rfl
  simp [hlower, Char.le_def]

theorem isAlpha_eq (c : Char) : c.isAlpha = (c.isUpper || c.isLower) := rfl

theorem digit_iff : ('0' ≤ c ∧ c ≤ '9') ↔ c.isDigit = true := by
  simp [Char.isDigit, Char.le_def]

theorem wordChars_iff : wordChars c = true ↔ Text.isWordChar c = true := by
  rw [wordChars, ranges_cons, ranges_cons, ranges_cons, ← single, single_iff, upper_iff, lower_iff, digit_iff]
  simp [Text.isWordChar, isAlpha_eq, or_assoc]

theorem union_ranges (l m : List (Char × Char)) : (ranges l).union (ranges m) = ranges (l ++ m) := by
  funext c
  simp [union, ranges]

end CharSet

/-! ## Repetitions -/

namespace Pattern

variable {p : Pattern} {set : CharSet} {w : List Char} {least : Nat} {greedy : Bool}

theorem mem_language_repeated_iff :
    w ∈ (repeated least none greedy p).language ↔
      ∃ pieces : List (List Char), least ≤ pieces.length ∧ (∀ piece ∈ pieces, piece ∈ p.language) ∧
        w = pieces.flatten := by
  constructor
  · rintro ⟨n, hleast, -, hw⟩
    obtain ⟨pieces, rfl, rfl, hpieces⟩ := Language.mem_pow.mp hw
    exact ⟨pieces, hleast, hpieces, rfl⟩
  · rintro ⟨pieces, hleast, hpieces, rfl⟩
    exact ⟨pieces.length, hleast, by simp, Language.mem_pow.mpr ⟨pieces, rfl, rfl, hpieces⟩⟩

/-- Repetitions of one character: so many characters of the set. -/
theorem mem_language_repeated_char_iff :
    w ∈ (repeated least none greedy (char set)).language ↔ least ≤ w.length ∧ ∀ c ∈ w, set c = true := by
  rw [mem_language_repeated_iff]
  constructor
  · rintro ⟨pieces, hleast, hpieces, rfl⟩
    have hone : ∀ piece ∈ pieces, piece.length = 1 := by
      intro piece hpiece
      obtain ⟨c, -, rfl⟩ := hpieces piece hpiece
      rfl
    have hlength : pieces.flatten.length = pieces.length := by
      rw [List.length_flatten, List.map_congr_left hone, List.map_const', List.sum_replicate_nat, mul_one]
    refine ⟨hlength ▸ hleast, fun c hc => ?_⟩
    obtain ⟨piece, hpiece, hc⟩ := List.mem_flatten.mp hc
    obtain ⟨d, hd, rfl⟩ := hpieces piece hpiece
    exact List.mem_singleton.mp hc ▸ hd
  · rintro ⟨hleast, hw⟩
    refine ⟨w.map fun c => [c], by simpa using hleast, ?_, ?_⟩
    · intro piece hpiece
      obtain ⟨c, hc, rfl⟩ := List.mem_map.mp hpiece
      exact ⟨c, hw c hc, rfl⟩
    · rw [← List.flatMap_def, List.flatMap_singleton']

end Pattern

namespace Schema

open Pattern

variable {set : CharSet} {test : Char → Bool} {w : List Char} {s : String}

/-! ## Runs and paths -/

/-- A text of characters of one kind, not the empty one. -/
def IsRun (test : Char → Bool) (s : String) : Prop := s ≠ "" ∧ ∀ c ∈ s.toList, test c = true

/-- Small letters, digits and the underscore. -/
def isSmallWordChar (c : Char) : Bool := c.isLower || c.isDigit || c == '_'

/-- Steps with a slash in front of each. -/
def slashed (steps : List String) : String := String.join (steps.map ("/" ++ ·))

/-- The path of a sub-path: one or more steps. -/
def IsSubPathPath (s : String) : Prop :=
  ∃ steps : List String, steps ≠ [] ∧ (∀ step ∈ steps, IsRun isSmallWordChar step) ∧ s = slashed steps

/-- A subaction path: such a path behind the user. -/
def IsSubactionPath (s : String) : Prop := ∃ path, IsSubPathPath path ∧ s = "/user" ++ path

/-- The path of a profile: its root, and two or more segments with slashes between them. -/
def IsProfilePath (s : String) : Prop :=
  ∃ segments : List String, 2 ≤ segments.length ∧ (∀ t ∈ segments, IsRun Text.isWordChar t) ∧
    s = "/interaction_profiles/" ++ "/".intercalate segments

theorem toList_slashed (steps : List String) :
    (slashed steps).toList = steps.flatMap fun step => "/".toList ++ step.toList := by
  simp [slashed, List.flatMap_map]

theorem intercalate_cons_eq (first : String) (steps : List String) :
    "/".intercalate (first :: steps) = first ++ slashed steps := by
  rw [← String.toList_inj, Text.toList_intercalate_cons, String.toList_append, toList_slashed]

/-! ## Parts of the patterns -/

theorem toList_mem_language_literal (s : String) : s.toList ∈ (literal s).language := by
  unfold literal
  induction s.toList with
  | nil => exact Language.nil_mem_one
  | cons c cs ih => exact ⟨[c], ⟨c, CharSet.single_iff.mpr rfl, rfl⟩, cs, ih, rfl⟩

theorem mem_language_literal_iff : w ∈ (literal s).language ↔ w = s.toList := by
  refine ⟨?_, fun h => h ▸ toList_mem_language_literal s⟩
  unfold literal
  induction s.toList generalizing w with
  | nil => exact id
  | cons c cs ih =>
    rintro ⟨_, ⟨d, hd, rfl⟩, b, hb, rfl⟩
    obtain rfl := CharSet.single_iff.mp hd
    obtain rfl := ih hb
    rfl

section Runs

variable (htest : ∀ c, set c = true ↔ test c = true)

include htest

theorem mem_language_run_iff : s.toList ∈ (plus (char set)).language ↔ IsRun test s := by
  rw [plus, mem_language_repeated_char_iff, IsRun, Nat.one_le_iff_ne_zero, Ne, List.length_eq_zero_iff,
    String.toList_eq_nil_iff]
  simp only [htest]

theorem mem_language_step_iff : w ∈ (seq (literal "/") (plus (char set))).language ↔
    ∃ step : String, IsRun test step ∧ w = "/".toList ++ step.toList := by
  rw [language, Language.mem_mul]
  constructor
  · rintro ⟨a, ha, b, hb, rfl⟩
    rw [← String.toList_ofList (l := b), mem_language_run_iff htest] at hb
    refine ⟨String.ofList b, hb, ?_⟩
    rw [mem_language_literal_iff.mp ha, String.toList_ofList (l := b)]
  · rintro ⟨step, hrun, rfl⟩
    exact ⟨_, toList_mem_language_literal _, _, (mem_language_run_iff htest).mpr hrun, rfl⟩

theorem mem_language_steps_iff : w ∈ (plus (seq (literal "/") (plus (char set)))).language ↔
    ∃ steps : List String, steps ≠ [] ∧ (∀ step ∈ steps, IsRun test step) ∧ w = (slashed steps).toList := by
  rw [plus, mem_language_repeated_iff]
  constructor
  · rintro ⟨pieces, hleast, hpieces, rfl⟩
    have hsteps : pieces ∈ Set.range
        (List.map fun step : {t : String // IsRun test t} => "/".toList ++ step.1.toList) := by
      rw [Set.range_list_map]
      intro piece hpiece
      obtain ⟨step, hrun, rfl⟩ := (mem_language_step_iff htest).mp (hpieces piece hpiece)
      exact ⟨⟨step, hrun⟩, rfl⟩
    obtain ⟨steps, rfl⟩ := hsteps
    refine ⟨steps.map Subtype.val, ?_, ?_, ?_⟩
    · rintro hnil
      rw [List.map_eq_nil_iff] at hnil
      simp [hnil] at hleast
    · intro step hstep
      obtain ⟨run, -, rfl⟩ := List.mem_map.mp hstep
      exact run.2
    · rw [toList_slashed, List.flatMap_map, List.flatMap_def]
  · rintro ⟨steps, hne, hrun, rfl⟩
    refine ⟨steps.map fun step => "/".toList ++ step.toList, ?_, ?_, ?_⟩
    · simpa [Nat.one_le_iff_ne_zero] using hne
    · intro piece hpiece
      obtain ⟨step, hmem, rfl⟩ := List.mem_map.mp hpiece
      exact (mem_language_step_iff htest).mpr ⟨step, hrun step hmem, rfl⟩
    · rw [toList_slashed, List.flatMap_def]

end Runs

/-! ## The patterns -/

theorem whole_iff {p : Pattern} (hp : p.isTextual = true) :
    (whole p).occursIn s = true ↔ s.toList ∈ p.language := occursIn_between_iff hp s

theorem smallWordChar_iff {c : Char} :
    CharSet.ranges [('a', 'z'), ('0', '9'), ('_', '_')] c = true ↔ isSmallWordChar c = true := by
  rw [CharSet.ranges_cons, CharSet.ranges_cons, ← CharSet.single, CharSet.single_iff, CharSet.lower_iff,
    CharSet.digit_iff]
  simp [isSmallWordChar, or_assoc]

theorem wordStart_iff {c : Char} :
    CharSet.ranges [('A', 'Z'), ('a', 'z'), ('_', '_')] c = true ↔ Text.isWordStart c = true := by
  rw [CharSet.ranges_cons, CharSet.ranges_cons, ← CharSet.single, CharSet.single_iff, CharSet.upper_iff,
    CharSet.lower_iff]
  simp [Text.isWordStart, CharSet.isAlpha_eq, or_assoc]

theorem componentName_iff : componentName.occursIn s = true ↔ IsRun isSmallWordChar s := by
  rw [componentName, whole_iff rfl, smallWordChar]
  exact mem_language_run_iff fun _ => smallWordChar_iff

theorem subPathPath_iff : subPathPath.occursIn s = true ↔ IsSubPathPath s := by
  rw [subPathPath, whole_iff rfl, smallWordChar, mem_language_steps_iff fun _ => smallWordChar_iff]
  simp only [IsSubPathPath, String.toList_inj]

theorem subactionPath_iff : subactionPath.occursIn s = true ↔ IsSubactionPath s := by
  rw [subactionPath, whole_iff rfl, language, Language.mem_mul, smallWordChar]
  constructor
  · rintro ⟨a, ha, b, hb, hs⟩
    obtain ⟨steps, hne, hrun, rfl⟩ := (mem_language_steps_iff fun _ => smallWordChar_iff).mp hb
    refine ⟨slashed steps, ⟨steps, hne, hrun, rfl⟩, ?_⟩
    rw [← String.toList_inj, ← hs, mem_language_literal_iff.mp ha, String.toList_append]
  · rintro ⟨_, ⟨steps, hne, hrun, rfl⟩, rfl⟩
    exact ⟨_, toList_mem_language_literal _, _,
      (mem_language_steps_iff fun _ => smallWordChar_iff).mpr ⟨steps, hne, hrun, rfl⟩,
      (String.toList_append ..).symm⟩

theorem identifier_iff : identifier.occursIn s = true ↔ Text.isIdentifier s = true := by
  rw [identifier, whole_iff rfl, language, Language.mem_mul, Text.isIdentifier, wordChar, wordStart]
  constructor
  · rintro ⟨_, ⟨c, hc, rfl⟩, b, hb, hs⟩
    have hall : ∀ d ∈ b, Text.isWordChar d = true := fun d hd =>
      CharSet.wordChars_iff.mp ((mem_language_repeated_char_iff.mp hb).2 d hd)
    simpa [← hs, wordStart_iff.mp hc] using hall
  · intro h
    split at h
    · contradiction
    · next c cs hs =>
      rw [Bool.and_eq_true, List.all_eq_true] at h
      refine ⟨[c], ⟨c, wordStart_iff.mpr h.1, rfl⟩, cs, mem_language_repeated_char_iff.mpr ⟨?_, ?_⟩, hs.symm⟩
      · exact Nat.zero_le _
      · exact fun d hd => CharSet.wordChars_iff.mpr (h.2 d hd)

theorem profilePath_iff : profilePath.occursIn s = true ↔ IsProfilePath s := by
  have hset : ∀ c, CharSet.wordChars c = true ↔ Text.isWordChar c = true := fun _ => CharSet.wordChars_iff
  rw [profilePath, whole_iff rfl, wordChar, language, Language.mem_mul, language]
  constructor
  · rintro ⟨a, ha, _, hb, hs⟩
    obtain ⟨b, hfirst, c, hrest, rfl⟩ := Language.mem_mul.mp hb
    obtain ⟨steps, hne, hruns, rfl⟩ := (mem_language_steps_iff hset).mp hrest
    rw [← String.toList_ofList (l := b), mem_language_run_iff hset] at hfirst
    refine ⟨String.ofList b :: steps, ?_, List.forall_mem_cons.mpr ⟨hfirst, hruns⟩, ?_⟩
    · have hpos : 0 < steps.length := List.length_pos_iff.mpr hne
      rw [List.length_cons]
      omega
    · rw [← String.toList_inj, ← hs, mem_language_literal_iff.mp ha, intercalate_cons_eq, String.toList_append,
        String.toList_append, String.toList_ofList (l := b)]
  · rintro ⟨segments, htwo, hruns, rfl⟩
    obtain ⟨first, steps, rfl⟩ : ∃ first steps, segments = first :: steps :=
      List.exists_cons_of_length_pos (by omega)
    obtain ⟨hfirst, hrest⟩ := List.forall_mem_cons.mp hruns
    have hne : steps ≠ [] := by
      rintro rfl
      simp at htwo
    have hsteps : (slashed steps).toList ∈
        (plus (seq (literal "/") (plus (char CharSet.wordChars)))).language :=
      (mem_language_steps_iff hset).mpr ⟨steps, hne, hrest, rfl⟩
    rw [intercalate_cons_eq]
    refine ⟨"/interaction_profiles/".toList, toList_mem_language_literal _, (first ++ slashed steps).toList,
      ?_, (String.toList_append ..).symm⟩
    rw [String.toList_append]
    exact Language.append_mem_mul ((mem_language_run_iff hset).mpr hfirst) hsteps

/-! ## Written forms -/

/-- What is read from a text matches the same texts as a pattern. -/
def IsWrittenForm (written : String) (p : Pattern) : Prop :=
  ∃ q, Pattern.read? written = some q ∧ ∀ s, q.occursIn s = p.occursIn s

/-- A set in brackets, as it is read: one range after the other. -/
def bracketed (l : List (Char × Char)) : Pattern :=
  char (l.foldl (fun set range => set.union (.ranges [range])) .empty)

theorem bracketed_eq (l : List (Char × Char)) : bracketed l = char (.ranges l) := by
  have hfold : ∀ front : List (Char × Char),
      l.foldl (fun set range => set.union (.ranges [range])) (CharSet.ranges front) = .ranges (front ++ l) := by
    induction l with
    | nil => simp
    | cons range l ih =>
      intro front
      rw [List.foldl_cons, CharSet.union_ranges, ih, List.append_assoc]
      rfl
  exact congrArg char (hfold [])

/-- Between brackets a text stands for a set. -/
def IsSetText (text : String) (l : List (Char × Char)) : Prop :=
  ∀ bound n rest, readSet.Reads (upcoming bound n (text.toList ++ ']' :: rest)) (bracketed l) (upcoming bound n rest)

theorem isSetText_smallWordChar : IsSetText "a-z0-9_" [('a', 'z'), ('0', '9'), ('_', '_')] := by
  simp only [IsSetText, String.reduceToList]
  exact fun _ _ _ => rfl

theorem isSetText_wordChar : IsSetText "A-Za-z0-9_" [('A', 'Z'), ('a', 'z'), ('0', '9'), ('_', '_')] := by
  simp only [IsSetText, String.reduceToList]
  exact fun _ _ _ => rfl

theorem isSetText_wordStart : IsSetText "A-Za-z_" [('A', 'Z'), ('a', 'z'), ('_', '_')] := by
  simp only [IsSetText, String.reduceToList]
  exact fun _ _ _ => rfl

section Reading

variable {bound n n' : Nat} {inside : Reader Pattern} {set : String} {l : List (Char × Char)}
variable {text rest : List Char} {p : Pattern}

theorem readsBranch_start (h : ReadsBranch bound (readAtomWith inside) n text p n' rest)
    (htext : isApart text = true) :
    ReadsBranch bound (readAtomWith inside) n ('^' :: text) (start.andThen p) n' rest := by
  have hpiece : (readPiece (readAtomWith inside)).Reads (upcoming bound n ('^' :: text)) start
      (upcoming bound n text) := reads_piece rfl rfl htext
  exact .cons hpiece (Nat.lt_succ_self _) h

theorem readsBranch_finish : ReadsBranch bound (readAtomWith inside) n ['$'] finish n [] := by
  have hpiece : (readPiece (readAtomWith inside)).Reads (upcoming bound n ['$']) finish (upcoming bound n []) :=
    reads_piece rfl rfl rfl
  exact .cons hpiece (Nat.lt_succ_self _) (readsBranch_end (.inl rfl))

theorem readsBranch_set (hset : IsSetText set l) (h : ReadsBranch bound (readAtomWith inside) n text p n' rest)
    (htext : isApart text = true) :
    ReadsBranch bound (readAtomWith inside) n ('[' :: (set.toList ++ ']' :: text)) ((bracketed l).andThen p) n'
      rest := by
  refine .cons (reads_piece rfl (reads_set (hset _ _ _)) htext) ?_ h
  simp only [List.length_cons, List.length_append]
  omega

theorem readsBranch_run {sign : Char} {least : Nat} (hset : IsSetText set l)
    (hsign : sign = '*' ∧ least = 0 ∨ sign = '+' ∧ least = 1)
    (h : ReadsBranch bound (readAtomWith inside) n text p n' rest) (htext : isApart text = true) :
    ReadsBranch bound (readAtomWith inside) n ('[' :: (set.toList ++ ']' :: sign :: text))
      ((repeated least none true (bracketed l)).andThen p) n' rest := by
  refine .cons (reads_repeated hsign rfl (reads_set (hset _ _ _)) rfl htext) ?_ h
  simp only [List.length_cons, List.length_append]
  omega

/-- One or more steps, up to the end. -/
theorem readsBranch_steps (hset : IsSetText set l) :
    ReadsBranch bound (atomsAbove inside) n ('(' :: '/' :: '[' :: (set.toList ++ [']', '+', ')', '+', '$']))
      (seq (plus (group (n + 1) (seq (char (.single '/')) (plus (bracketed l))))) finish) (n + 1) [] := by
  have hstep : ReadsBranch bound (readAtomWith inside) (n + 1)
      ('/' :: '[' :: (set.toList ++ [']', '+', ')', '+', '$'])) (seq (char (.single '/')) (plus (bracketed l)))
      (n + 1) [')', '+', '$'] :=
    .cons (reads_piece rfl (reads_ordinary rfl) rfl) (Nat.lt_succ_self _)
      (readsBranch_run hset (.inr ⟨rfl, rfl⟩) (readsBranch_end (.inr ⟨_, rfl⟩)) rfl)
  refine .cons (reads_repeated (.inr ⟨rfl, rfl⟩) rfl (reads_group rfl hstep) rfl rfl) ?_ readsBranch_finish
  simp

end Reading

-- What is read differs from the pattern in how sequences are nested, and in how sets are put together. The
-- nesting does not show where a pattern leads.

theorem isWrittenForm_componentName : IsWrittenForm "^[a-z0-9_]+$" componentName := by
  refine ⟨_, read?_of_readsBranch (fun _ _ => readsBranch_start
    (readsBranch_run isSetText_smallWordChar (.inr ⟨rfl, rfl⟩) readsBranch_finish rfl) rfl)
    (by decide +kernel) (by decide +kernel) (by decide +kernel), fun s => ?_⟩
  rw [bracketed_eq]
  rfl

theorem isWrittenForm_identifier : IsWrittenForm "^[A-Za-z_][A-Za-z0-9_]*$" identifier := by
  refine ⟨_, read?_of_readsBranch (fun _ _ => readsBranch_start
    (readsBranch_set isSetText_wordStart
      (readsBranch_run isSetText_wordChar (.inl ⟨rfl, rfl⟩) readsBranch_finish rfl) rfl) rfl)
    (by decide +kernel) (by decide +kernel) (by decide +kernel), fun s => ?_⟩
  rw [bracketed_eq, bracketed_eq]
  rfl

theorem isWrittenForm_subPathPath : IsWrittenForm "^(/[a-z0-9_]+)+$" subPathPath := by
  refine ⟨_, read?_of_readsBranch (fun _ _ => readsBranch_start (readsBranch_steps isSetText_smallWordChar) rfl)
    (by decide +kernel) (by decide +kernel) (by decide +kernel), fun s => ?_⟩
  rw [bracketed_eq]
  rfl

theorem isWrittenForm_subactionPath : IsWrittenForm "^/user(/[a-z0-9_]+)+$" subactionPath := by
  have hfront : "/user".toList.all isOrdinary = true := by decide +kernel
  refine ⟨_, read?_of_readsBranch (fun _ _ => readsBranch_start
    ((readsBranch_steps isSetText_smallWordChar).literal hfront rfl) (isApart_append hfront rfl))
    (by decide +kernel) (by decide +kernel) (by decide +kernel), fun s => ?_⟩
  rw [bracketed_eq]
  rfl

theorem isWrittenForm_profilePath :
    IsWrittenForm "^/interaction_profiles/[A-Za-z0-9_]+(/[A-Za-z0-9_]+)+$" profilePath := by
  have hfront : "/interaction_profiles/".toList.all isOrdinary = true := by decide +kernel
  refine ⟨_, read?_of_readsBranch (fun _ _ => readsBranch_start
    ((readsBranch_run isSetText_wordChar (.inr ⟨rfl, rfl⟩) (readsBranch_steps isSetText_wordChar) rfl).literal
      hfront rfl) (isApart_append hfront rfl))
    (by decide +kernel) (by decide +kernel) (by decide +kernel), fun s => ?_⟩
  rw [bracketed_eq]
  rfl

mutual

/-- The patterns of a schema, each with its written form. -/
def patterns : Schema → List (String × Pattern)
  | .always _ => []
  | .all demands => patternsOfAll demands

/-- The patterns of some demands. -/
def patternsOfAll : List Demand → List (String × Pattern)
  | [] => []
  | d :: rest => patternsOfDemand d ++ patternsOfAll rest

/-- The patterns of a demand. -/
def patternsOfDemand : Demand → List (String × Pattern)
  | .properties known => patternsOfKnown known
  | .propertiesOr known other => patternsOfKnown known ++ patterns other
  | .onlyProperties known => patternsOfKnown known
  | .propertyNames schema => patterns schema
  | .pattern written p => [(written, p)]
  | .items schema => patterns schema
  | .oneOf choices => patternsOfChoices choices
  | _ => []

/-- The patterns of the schemas of properties. -/
def patternsOfKnown : List (String × Schema) → List (String × Pattern)
  | [] => []
  | (_, schema) :: rest => patterns schema ++ patternsOfKnown rest

/-- The patterns of some schemas. -/
def patternsOfChoices : List Schema → List (String × Pattern)
  | [] => []
  | schema :: rest => patterns schema ++ patternsOfChoices rest

end

/-- The patterns of a schema and of those that it refers to. -/
def Root.patterns (root : Root) : List (String × Pattern) :=
  root.schema.patterns ++ root.library.flatMap fun entry => entry.2.patterns

/-- Each pattern of the built-in schema matches what its written form does. -/
theorem isWrittenForm_of_mem_patterns : ∀ entry ∈ bindings.patterns, IsWrittenForm entry.1 entry.2 := by
  have hpatterns : bindings.patterns = [
      ("^/interaction_profiles/[A-Za-z0-9_]+(/[A-Za-z0-9_]+)+$", profilePath),
      ("^[A-Za-z_][A-Za-z0-9_]*$", identifier),
      ("^/user(/[a-z0-9_]+)+$", subactionPath),
      ("^(/[a-z0-9_]+)+$", subPathPath),
      ("^[a-z0-9_]+$", componentName)] := rfl
  rw [hpatterns]
  simp only [List.forall_mem_cons]
  exact ⟨isWrittenForm_profilePath, isWrittenForm_identifier, isWrittenForm_subactionPath,
    isWrittenForm_subPathPath, isWrittenForm_componentName, List.forall_mem_nil _⟩

end Schema

end ProfileBindings
