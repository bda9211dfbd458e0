import Mathlib.Computability.Language
import ProfileBindings.Pattern.Matching

/-!
# The language of a pattern

A pattern that only takes characters stands for the texts that it takes as a whole. Following such a pattern
from some spots leads behind the words of its language, and nowhere else. The bound that is put on
repetitions cuts nothing off: a repeat that takes no characters can be left out.

* `isTextual` : a pattern that tests no place, remembers nothing and keeps to no first way;
* `language` : the texts that it takes as a whole;
* `Follows` : a spot lies behind another one by a word of a language.

Main statements:
* `mem_reach_iff` : where a textual pattern leads;
* `occursIn_between_iff` : a textual pattern between the start and the end of a text.
-/

namespace ProfileBindings.Pattern

/-- The pattern only takes characters. -/
def isTextual : Pattern → Bool
  | never => true
  | nothing => true
  | char _ => true
  | seq p q => isTextual p && isTextual q
  | alt p q => isTextual p && isTextual q
  | repeated _ _ _ p => isTextual p
  | _ => false

/-- One character of a set. -/
def characters (set : CharSet) : Language Char := {w | ∃ c, set c = true ∧ w = [c]}

/-- So many words of a language. A bound below the least number does not count. -/
def repeats (least : Nat) (most : Option Nat) (l : Language Char) : Language Char :=
  {w | ∃ n, least ≤ n ∧ (∀ m ∈ most, n ≤ max least m) ∧ w ∈ l ^ n}

/-- The texts that a textual pattern takes as a whole. -/
def language : Pattern → Language Char
  | nothing => 1
  | char set => characters set
  | seq p q => language p * language q
  | alt p q => language p + language q
  | repeated least most _ p => repeats least most (language p)
  | _ => 0

/-! ## Words of a language behind each other -/

/-- The second spot lies behind the first one by a word of the language. -/
def Follows (text : Array Char) (l : Language Char) (s t : Spot) : Prop :=
  ∃ w ∈ l, w <+: text.toList.drop s.index ∧ t = s.movedTo (s.index + w.length)

variable {text : Array Char} {l m : Language Char} {s t u : Spot}

theorem append_prefix_drop_iff {α : Type} {a b cs : List α} {i : Nat} :
    a ++ b <+: cs.drop i ↔ a <+: cs.drop i ∧ b <+: cs.drop (i + a.length) := by
  rw [← List.drop_drop]
  constructor
  · rintro ⟨rest, h⟩
    rw [← h]
    exact ⟨⟨b ++ rest, by simp⟩, ⟨rest, by simp⟩⟩
  · rintro ⟨⟨rest, h⟩, hb⟩
    rw [← h] at hb ⊢
    rw [List.drop_left] at hb
    exact (List.prefix_append_right_inj a).mpr hb

theorem follows_one : Follows text 1 s t ↔ t = s := by
  simp [Follows, Spot.movedTo]

theorem follows_add : Follows text (l + m) s t ↔ Follows text l s t ∨ Follows text m s t := by
  simp only [Follows, Language.mem_add, or_and_right, exists_or]

theorem follows_mul : Follows text (l * m) s u ↔ ∃ t, Follows text l s t ∧ Follows text m t u := by
  constructor
  · rintro ⟨_, hw, hprefix, rfl⟩
    obtain ⟨a, ha, b, hb, rfl⟩ := Language.mem_mul.mp hw
    obtain ⟨hprefixa, hprefixb⟩ := append_prefix_drop_iff.mp hprefix
    refine ⟨s.movedTo (s.index + a.length), ⟨a, ha, hprefixa, rfl⟩, b, hb, hprefixb, ?_⟩
    simp [Spot.movedTo, Nat.add_assoc]
  · rintro ⟨_, ⟨a, ha, hprefixa, rfl⟩, b, hb, hprefixb, rfl⟩
    refine ⟨a ++ b, Language.append_mem_mul ha hb, append_prefix_drop_iff.mpr ⟨hprefixa, hprefixb⟩, ?_⟩
    simp [Spot.movedTo, Nat.add_assoc]

/-- Repeats that take nothing can be left out, so as many as the text has characters are enough. -/
theorem Follows.exists_le_size {n : Nat} (h : Follows text (l ^ n) s t) :
    ∃ k, k ≤ n ∧ k ≤ text.size ∧ Follows text (l ^ k) s t := by
  obtain ⟨w, hw, hprefix, ht⟩ := h
  obtain ⟨pieces, rfl, hlength, hpieces⟩ := Language.mem_pow.mp hw
  have hflatten : (pieces.filter (!·.isEmpty)).flatten = pieces.flatten :=
    List.flatten_filter_not_isEmpty
  have hcount : ∀ ps : List (List Char), (∀ p ∈ ps, p ≠ []) → ps.length ≤ ps.flatten.length := by
    intro ps hps
    induction ps with
    | nil => simp
    | cons p ps ih =>
      have hp : 0 < p.length := List.length_pos_iff.mpr (hps p List.mem_cons_self)
      have hrest := ih fun q hq => hps q (List.mem_cons_of_mem p hq)
      simp only [List.length_cons, List.flatten_cons, List.length_append]
      omega
  have hsize : pieces.flatten.length ≤ text.size := by
    have hle := hprefix.length_le
    have htext : text.toList.length = text.size := Array.length_toList
    rw [List.length_drop] at hle
    omega
  refine ⟨(pieces.filter (!·.isEmpty)).length, ?_, ?_, pieces.flatten, ?_, hprefix, ht⟩
  · exact hlength ▸ List.length_filter_le _ _
  · have hle := hcount (pieces.filter (!·.isEmpty)) (by simp)
    rw [hflatten] at hle
    omega
  · refine Language.mem_pow.mpr ⟨_, hflatten.symm, rfl, fun y hy => hpieces y (List.mem_of_mem_filter hy)⟩

/-! ## Repetitions -/

section Repetitions

variable {step : List Spot → List Spot}
  (hstep : ∀ spots t, t ∈ step spots ↔ ∃ s ∈ spots, Follows text l s t)

theorem times_of_fixed {spots : List Spot} (h : step spots = spots) (n : Nat) :
    times step n spots = spots := by
  cases n with
  | zero => rfl
  | succ n => simp [times, h]

theorem times_succ (n : Nat) (spots : List Spot) :
    times step (n + 1) spots = times step n (step spots) := by
  rw [times]
  split
  · next h => rw [h, times_of_fixed h]
  · rfl

include hstep in
theorem mem_times_iff {n : Nat} {spots : List Spot} :
    t ∈ times step n spots ↔ ∃ s ∈ spots, Follows text (l ^ n) s t := by
  induction n generalizing spots with
  | zero => simp [times, follows_one]
  | succ n ih =>
    rw [times_succ, ih]
    simp only [hstep, pow_succ', follows_mul]
    constructor
    · rintro ⟨r, ⟨s, hs, hsr⟩, hrt⟩
      exact ⟨s, hs, r, hsr, hrt⟩
    · rintro ⟨s, hs, r, hsr, hrt⟩
      exact ⟨r, ⟨s, hs, hsr⟩, hrt⟩

theorem subset_upTo (n : Nat) (last seen : List Spot) : seen ⊆ upTo step n last seen := by
  induction n generalizing last seen with
  | zero => exact List.Subset.refl seen
  | succ n ih =>
    simp only [upTo]
    split
    · exact List.Subset.refl seen
    · exact fun s hs => ih _ _ (List.mem_append_left _ hs)

/-- The spots that are reached first in a round. -/
theorem mem_next_iff {last seen : List Spot} :
    t ∈ (step last).eraseDups.filter (fun s => !seen.contains s) ↔ t ∈ step last ∧ t ∉ seen := by
  simp [List.mem_eraseDups]

include hstep in
/-- Rounds reach nothing but what so many steps lead to. -/
theorem follows_of_mem_upTo {n : Nat} {last seen : List Spot} (h : t ∈ upTo step n last seen) :
    t ∈ seen ∨ ∃ k ≤ n, ∃ s ∈ last, Follows text (l ^ k) s t := by
  induction n generalizing last seen with
  | zero => exact Or.inl h
  | succ n ih =>
    simp only [upTo] at h
    split at h
    · exact Or.inl h
    · have hfirst : ∀ r ∈ (step last).eraseDups.filter (fun s => !seen.contains s),
          ∃ s ∈ last, Follows text l s r := fun r hr => (hstep _ _).mp (mem_next_iff.mp hr).1
      rcases ih h with hseen | ⟨k, hk, r, hr, hrt⟩
      · rcases List.mem_append.mp hseen with hseen | hnext
        · exact Or.inl hseen
        · obtain ⟨s, hs, hst⟩ := hfirst t hnext
          exact Or.inr ⟨1, by omega, s, hs, by rwa [pow_one]⟩
      · obtain ⟨s, hs, hsr⟩ := hfirst r hr
        refine Or.inr ⟨k + 1, by omega, s, hs, ?_⟩
        rw [pow_succ', follows_mul]
        exact ⟨r, hsr, hrt⟩

include hstep in
/-- Rounds reach all that so many steps lead to. Steps from spots that were seen before the last round have
been seen, too. -/
theorem mem_upTo_of_follows {n k : Nat} {last seen : List Spot}
    (hclosed : ∀ s ∈ seen, s ∉ last → step [s] ⊆ seen) (hs : s ∈ seen) (hk : k ≤ n)
    (h : Follows text (l ^ k) s t) : t ∈ upTo step n last seen := by
  induction n generalizing last seen s k with
  | zero =>
    obtain rfl : k = 0 := by omega
    rw [pow_zero, follows_one] at h
    exact h ▸ hs
  | succ n ih =>
    -- Inside the round: steps that stay among what was seen before it take up no round.
    induction k generalizing s with
    | zero =>
      rw [pow_zero, follows_one] at h
      exact subset_upTo _ _ _ (h ▸ hs)
    | succ k ihk =>
      rw [pow_succ', follows_mul] at h
      obtain ⟨r, hsr, hrt⟩ := h
      have hr : r ∈ step [s] := (hstep _ _).mpr ⟨s, List.mem_singleton_self s, hsr⟩
      by_cases hseen : r ∈ seen
      · exact ihk hseen (by omega) hrt
      · have hlast : s ∈ last := by
          by_contra hnot
          exact hseen (hclosed s hs hnot hr)
        have hnext : r ∈ (step last).eraseDups.filter (fun s => !seen.contains s) :=
          mem_next_iff.mpr ⟨(hstep _ _).mpr ⟨s, hlast, hsr⟩, hseen⟩
        simp only [upTo]
        rw [if_neg (by simpa [List.isEmpty_iff] using List.ne_nil_of_mem hnext)]
        refine ih ?_ (List.mem_append_right _ hnext) (by omega) hrt
        intro q hq hqnext x hx
        have hq' : q ∈ seen := (List.mem_append.mp hq).resolve_right hqnext
        by_cases hqlast : q ∈ last
        · have hx' : x ∈ step last := by
            obtain ⟨_, hmem, hqx⟩ := (hstep _ _).mp hx
            obtain rfl := List.mem_singleton.mp hmem
            exact (hstep _ _).mpr ⟨_, hqlast, hqx⟩
          by_cases hxseen : x ∈ seen
          · exact List.mem_append_left _ hxseen
          · exact List.mem_append_right _ (mem_next_iff.mpr ⟨hx', hxseen⟩)
        · exact List.mem_append_left _ (hclosed q hq' hqlast hx)

include hstep in
theorem mem_upTo_iff {n : Nat} {spots : List Spot} :
    t ∈ upTo step n spots spots ↔ ∃ k ≤ n, ∃ s ∈ spots, Follows text (l ^ k) s t := by
  constructor
  · intro h
    rcases follows_of_mem_upTo hstep h with hmem | h
    · exact ⟨0, Nat.zero_le n, t, hmem, by rw [pow_zero, follows_one]⟩
    · exact h
  · rintro ⟨k, hk, s, hs, h⟩
    exact mem_upTo_of_follows hstep (fun q hq hnot => absurd hq hnot) hs hk h

include hstep in
/-- So many steps, and some more. -/
theorem mem_repeated_iff {least bound : Nat} {spots : List Spot} :
    t ∈ upTo step bound (times step least spots) (times step least spots) ↔
      ∃ k ≤ bound, ∃ s ∈ spots, Follows text (l ^ (least + k)) s t := by
  rw [mem_upTo_iff hstep]
  simp only [mem_times_iff hstep, pow_add, follows_mul]
  constructor
  · rintro ⟨k, hk, r, ⟨s, hs, hsr⟩, hrt⟩
    exact ⟨k, hk, s, hs, r, hsr, hrt⟩
  · rintro ⟨k, hk, s, hs, r, hsr, hrt⟩
    exact ⟨k, hk, r, ⟨s, hs, hsr⟩, hrt⟩

end Repetitions

/-! ## Patterns -/

theorem follows_characters {set : CharSet} :
    Follows text (characters set) s t ↔ s.take? text set = some t := by
  have hhead : ∀ c, [c] <+: text.toList.drop s.index ↔ text[s.index]? = some c := by
    intro c
    rw [← Array.getElem?_toList, ← List.head?_drop]
    cases text.toList.drop s.index <;> simp [eq_comm]
  unfold Spot.take?
  constructor
  · rintro ⟨_, ⟨c, hc, rfl⟩, hprefix, rfl⟩
    have hany : text[s.index]?.any set = true := by rw [(hhead c).mp hprefix]; exact hc
    rw [if_pos hany]
    rfl
  · intro h
    split at h
    · next hany =>
      obtain ⟨c, hindex, hc⟩ : ∃ c, text[s.index]? = some c ∧ set c = true := by
        simpa [Option.any_eq_true] using hany
      exact ⟨[c], ⟨c, hc, rfl⟩, (hhead c).mpr hindex, (Option.some.inj h).symm⟩
    · contradiction

theorem follows_repeats {least : Nat} {most : Option Nat} :
    Follows text (repeats least most l) s t ↔
      ∃ n, least ≤ n ∧ (∀ m ∈ most, n ≤ max least m) ∧ Follows text (l ^ n) s t := by
  constructor
  · rintro ⟨w, ⟨n, hleast, hmost, hw⟩, hprefix, ht⟩
    exact ⟨n, hleast, hmost, w, hw, hprefix, ht⟩
  · rintro ⟨n, hleast, hmost, w, hw, hprefix, ht⟩
    exact ⟨w, ⟨n, hleast, hmost, hw⟩, hprefix, ht⟩

/-- A textual pattern leads from a spot to those behind it by a word of the language of the pattern. -/
theorem mem_reach_iff {p : Pattern} (hp : p.isTextual = true) {spots : List Spot} :
    t ∈ reach text p spots ↔ ∃ s ∈ spots, Follows text p.language s t := by
  induction p generalizing spots t with
  | never => simp [reach, language, Follows]
  | nothing => simp [reach, language, follows_one]
  | char set => simp [reach, language, follows_characters]
  | seq p q ihp ihq =>
    have hpq : p.isTextual = true ∧ q.isTextual = true := by simpa [isTextual] using hp
    simp only [reach, language, ihq hpq.2, ihp hpq.1, follows_mul]
    constructor
    · rintro ⟨r, ⟨s, hs, hsr⟩, hrt⟩
      exact ⟨s, hs, r, hsr, hrt⟩
    · rintro ⟨s, hs, r, hsr, hrt⟩
      exact ⟨r, ⟨s, hs, hsr⟩, hrt⟩
  | alt p q ihp ihq =>
    have hpq : p.isTextual = true ∧ q.isTextual = true := by simpa [isTextual] using hp
    simp only [reach, language, List.mem_eraseDups, List.mem_append, ihp hpq.1, ihq hpq.2, follows_add,
      ← exists_or, ← and_or_left]
  | repeated least most greedy p ih =>
    have hstep : ∀ spots t, t ∈ reach text p spots ↔ ∃ s ∈ spots, Follows text p.language s t :=
      fun _ _ => ih (by simpa [isTextual] using hp)
    simp only [language, follows_repeats]
    cases most with
    | some most =>
      have hreach : t ∈ reach text (repeated least (some most) greedy p) spots ↔
          ∃ k ≤ most - least, ∃ s ∈ spots, Follows text (p.language ^ (least + k)) s t :=
        mem_repeated_iff hstep
      rw [hreach]
      constructor
      · rintro ⟨k, hk, s, hs, h⟩
        refine ⟨s, hs, least + k, Nat.le_add_right _ _, ?_, h⟩
        rintro m ⟨⟩
        omega
      · rintro ⟨s, hs, n, hleast, hmost, h⟩
        obtain ⟨k, rfl⟩ := Nat.exists_eq_add_of_le hleast
        have hk := hmost most rfl
        exact ⟨k, by omega, s, hs, h⟩
    | none =>
      have hreach : t ∈ reach text (repeated least none greedy p) spots ↔
          ∃ k ≤ text.size + 1, ∃ s ∈ spots, Follows text (p.language ^ (least + k)) s t :=
        mem_repeated_iff hstep
      rw [hreach]
      constructor
      · rintro ⟨k, -, s, hs, h⟩
        exact ⟨s, hs, least + k, Nat.le_add_right _ _, by simp, h⟩
      · rintro ⟨s, hs, n, hleast, -, h⟩
        -- What is repeated beyond the least number may be repeated less often.
        obtain ⟨k, rfl⟩ := Nat.exists_eq_add_of_le hleast
        rw [pow_add, follows_mul] at h
        obtain ⟨r, hsr, hrt⟩ := h
        obtain ⟨k', -, hk', hrt'⟩ := hrt.exists_le_size
        refine ⟨k', by omega, s, hs, ?_⟩
        rw [pow_add, follows_mul]
        exact ⟨r, hsr, hrt'⟩
  | _ => exact absurd hp (by simp [isTextual])

/-- A textual pattern between the start and the end of a text has to take the whole text. -/
theorem occursIn_between_iff {p : Pattern} (hp : p.isTextual = true) (s : String) :
    occursIn (seq start (seq p finish)) s = true ↔ s.toList ∈ p.language := by
  have hfound : occursIn (seq start (seq p finish)) s = true ↔
      ∃ t, t ∈ reach s.toList.toArray p
          ((spots s.toList.toArray).filter fun s' => s'.index == 0) ∧ t.index = s.toList.length := by
    simp [occursIn, reach, start, finish, Place.holds, List.filter_eq_nil_iff]
  rw [hfound]
  constructor
  · rintro ⟨t, ht, hindex⟩
    obtain ⟨s', hs', w, hw, hprefix, rfl⟩ := (mem_reach_iff hp).mp ht
    have hzero : s'.index = 0 := by simpa using (List.mem_filter.mp hs').2
    have hlength : w.length = s.toList.length := by simpa [Spot.movedTo, hzero] using hindex
    have hw' : w <+: s.toList := by simpa [hzero] using hprefix
    exact hw'.eq_of_length hlength ▸ hw
  · intro h
    refine ⟨⟨s.toList.length, []⟩, (mem_reach_iff hp).mpr ⟨⟨0, []⟩, ?_, s.toList, h, ?_, ?_⟩, rfl⟩
    · simp [spots]
    · simp
    · simp [Spot.movedTo]

end ProfileBindings.Pattern
