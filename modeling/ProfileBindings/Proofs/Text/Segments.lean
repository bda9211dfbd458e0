import Mathlib.Data.List.Basic
import ProfileBindings.Text.Words

/-!
# Segments of a text

Pieces that are joined by a separator are the segments of the text, if no piece has a separator in it.

Main statements:
* `segments_append_of_sep` : a separator parts the segments in front of it from those behind it;
* `mem_segments_iff` : the segments are the longest runs without a separator;
* `segments_intercalate` : the segments of joined pieces are the pieces;
* `intercalate_segments` : a text is its segments, joined again;
* `exists_segments_append` : the last segment of a text ends as the text does;
* `toList_intercalate_cons` : joined pieces are the first one, and the others with a separator in front of each.
-/

namespace ProfileBindings.Text

theorem hasSuffix_iff {ending s : String} : hasSuffix ending s = true ↔ ending.toList <:+ s.toList := by
  rw [hasSuffix, List.isSuffixOf_iff_suffix]

variable {sep : Char → Bool}

theorem segments_of_forall_not {cs : List Char} (h : ∀ c ∈ cs, sep c = false) : segments sep cs = [cs] := by
  induction cs with
  | nil => rfl
  | cons c cs ih =>
    have hc : sep c = false := h c List.mem_cons_self
    simp [segments, hc, ih fun d hd => h d (List.mem_cons_of_mem c hd)]

/-- A separator parts the segments in front of it from those behind it. -/
theorem segments_append_of_sep {x : Char} (hx : sep x = true) (cs rest : List Char) :
    segments sep (cs ++ x :: rest) = segments sep cs ++ segments sep rest := by
  induction cs with
  | nil => simp [segments, hx]
  | cons c cs ih =>
    rw [List.cons_append, segments, segments, ih]
    by_cases hc : sep c = true
    · rw [if_pos hc, if_pos hc, List.cons_append]
    · rw [if_neg hc, if_neg hc]
      cases hcs : segments sep cs with
      | nil => exact absurd hcs (segments_ne_nil sep cs)
      | cons piece pieces => rfl

theorem segments_append_cons {cs rest : List Char} {x : Char} (h : ∀ c ∈ cs, sep c = false)
    (hx : sep x = true) : segments sep (cs ++ x :: rest) = cs :: segments sep rest := by
  rw [segments_append_of_sep hx, segments_of_forall_not h, List.singleton_append]

/-- A stretch of a text without a separator is a segment if nothing but separators is beside it. -/
theorem mem_segments_append {front piece back : List Char} (hpiece : ∀ c ∈ piece, sep c = false)
    (hfront : ∀ c ∈ front.getLast?, sep c = true) (hback : ∀ c ∈ back.head?, sep c = true) :
    piece ∈ segments sep (front ++ piece ++ back) := by
  have hrest : piece ∈ segments sep (piece ++ back) := by
    cases back with
    | nil => simp [segments_of_forall_not hpiece]
    | cons x back => simp [segments_append_cons hpiece (hback x rfl)]
  rw [List.append_assoc]
  rcases List.eq_nil_or_concat front with rfl | ⟨front, x, rfl⟩
  · exact hrest
  · have hx : sep x = true := hfront x (by simp)
    rw [List.concat_eq_append, List.append_assoc, List.singleton_append, segments_append_of_sep hx]
    exact List.mem_append_right _ hrest

/-- The segments of a text are its longest stretches without a separator. -/
theorem mem_segments_iff {piece cs : List Char} :
    piece ∈ segments sep cs ↔ (∀ c ∈ piece, sep c = false) ∧ ∃ front back, cs = front ++ piece ++ back ∧
      (∀ c ∈ front.getLast?, sep c = true) ∧ ∀ c ∈ back.head?, sep c = true := by
  constructor
  · -- The text is walked through behind a beginning `a` of the segment that is being read.
    suffices h : ∀ a : List Char, (∀ c ∈ a, sep c = false) → piece ∈ segments sep (a ++ cs) →
        (∀ c ∈ piece, sep c = false) ∧ ∃ front back, a ++ cs = front ++ piece ++ back ∧
          (∀ c ∈ front.getLast?, sep c = true) ∧ ∀ c ∈ back.head?, sep c = true from
      h [] (by simp)
    induction cs with
    | nil =>
      intro a ha hmem
      rw [List.append_nil, segments_of_forall_not ha, List.mem_singleton] at hmem
      subst hmem
      exact ⟨ha, [], [], by simp, by simp, by simp⟩
    | cons c cs ih =>
      intro a ha hmem
      by_cases hc : sep c = true
      · rw [segments_append_cons ha hc, List.mem_cons] at hmem
        rcases hmem with rfl | hmem
        · exact ⟨ha, [], c :: cs, by simp, by simp, by simpa using hc⟩
        · obtain ⟨hpiece, front, back, heq, hfront, hback⟩ := ih [] (by simp) hmem
          rw [List.nil_append] at heq
          refine ⟨hpiece, a ++ c :: front, back, by simp [heq], ?_, hback⟩
          intro d hd
          cases front with
          | nil =>
            obtain rfl : c = d := by simpa using hd
            exact hc
          | cons e front => exact hfront d (by simpa using hd)
      · have ha' : ∀ d ∈ a ++ [c], sep d = false := by
          intro d hd
          rcases List.mem_append.mp hd with hd | hd
          · exact ha d hd
          · obtain rfl := List.mem_singleton.mp hd
            simpa using hc
        have hassoc : a ++ [c] ++ cs = a ++ c :: cs := by simp
        have h := ih (a ++ [c]) ha'
        rw [hassoc] at h
        exact h hmem
  · rintro ⟨hpiece, front, back, rfl, hfront, hback⟩
    exact mem_segments_append hpiece hfront hback

/-- What has no separator in it stands behind the last separator. -/
theorem exists_segments_append {ending : List Char} (h : ∀ c ∈ ending, sep c = false) (cs : List Char) :
    ∃ front piece, segments sep (cs ++ ending) = front ++ [piece ++ ending] := by
  induction cs with
  | nil => exact ⟨[], [], segments_of_forall_not h⟩
  | cons c cs ih =>
    obtain ⟨front, piece, hsegments⟩ := ih
    rw [List.cons_append, segments, hsegments]
    by_cases hc : sep c = true
    · exact ⟨[] :: front, piece, by rw [if_pos hc, List.cons_append]⟩
    · rw [if_neg hc]
      cases front with
      | nil => exact ⟨[], c :: piece, rfl⟩
      | cons first front => exact ⟨(c :: first) :: front, piece, rfl⟩

/-- Joined pieces are the first one, and the others with the separator in front of each. -/
theorem toList_intercalate_cons (s t : String) (pieces : List String) :
    (s.intercalate (t :: pieces)).toList = t.toList ++ pieces.flatMap fun u => s.toList ++ u.toList := by
  induction pieces generalizing t with
  | nil => simp
  | cons u pieces ih =>
    rw [String.intercalate_cons_cons, String.toList_append, String.toList_append, ih, List.flatMap_cons]
    simp

/-- The segments of joined pieces are the pieces. -/
theorem segments_intercalate {s : String} {x : Char} (hs : s.toList = [x]) (hx : sep x = true)
    {pieces : List String} (hne : pieces ≠ []) (h : ∀ t ∈ pieces, ∀ c ∈ t.toList, sep c = false) :
    (segments sep (s.intercalate pieces).toList).map String.ofList = pieces := by
  cases pieces with
  | nil => contradiction
  | cons t pieces =>
    rw [toList_intercalate_cons, hs]
    induction pieces generalizing t with
    | nil => simp [segments_of_forall_not (h t List.mem_cons_self)]
    | cons u pieces ih =>
      have hrest := ih u (by simp) fun v hv => h v (List.mem_cons_of_mem t hv)
      rw [List.flatMap_cons, List.singleton_append, List.cons_append,
        segments_append_cons (h t List.mem_cons_self) hx, List.map_cons, String.ofList_toList, hrest]

/-- A text is its segments, joined again. -/
theorem intercalate_segments {s : String} {x : Char} (hs : s.toList = [x]) (cs : List Char) :
    (s.intercalate ((segments (· == x) cs).map String.ofList)).toList = cs := by
  induction cs with
  | nil => simp [segments]
  | cons c cs ih =>
    obtain ⟨piece, pieces, hcs⟩ := List.exists_cons_of_ne_nil (segments_ne_nil (· == x) cs)
    rw [hcs, List.map_cons, toList_intercalate_cons, String.toList_ofList] at ih
    by_cases hc : c = x
    · simp only [segments, hc, beq_self_eq_true, if_true, hcs, List.map_cons]
      rw [toList_intercalate_cons, List.flatMap_cons, String.toList_ofList, String.toList_ofList, hs,
        List.nil_append, List.append_assoc, ← hs, ih, hs, List.singleton_append]
    · simp only [segments, beq_iff_eq, hc, if_false, hcs, List.map_cons]
      rw [toList_intercalate_cons, String.toList_ofList, List.cons_append, ih]

end ProfileBindings.Text
