import Mathlib.Data.List.Basic
import Mathlib.Data.List.Induction

/-!
# Lists with repetitions

Where the things of a list first come. Keeping each of them once, where it first comes, goes together with
putting something behind the list and with leaving things out of it.

Main statements:
* `eraseDups_concat` : only what is new is kept;
* `eraseDups_filter` : what is left out does not matter for the rest;
* `pairwise_idxOf_eraseDups`, `nodup_eraseDups` : what is kept stands in the order in which it first came.
-/

namespace ProfileBindings

variable {α : Type} [BEq α] [LawfulBEq α]

/-- Of what is put behind a list only what is new is kept. -/
theorem eraseDups_concat (l : List α) (a : α) :
    (l ++ [a]).eraseDups = l.eraseDups ++ if a ∈ l then [] else [a] := by
  rw [List.eraseDups_append]
  by_cases hmem : a ∈ l
  · simp [List.removeAll, hmem]
  · have hnew : [a].removeAll l = [a] := by simp [List.removeAll, hmem]
    simp [hnew, hmem, List.eraseDups_cons]

theorem eraseDups_filter (keep : α → Bool) (l : List α) :
    (l.filter keep).eraseDups = l.eraseDups.filter keep := by
  induction l using List.reverseRecOn with
  | nil => rfl
  | append_singleton l a ih =>
    rw [eraseDups_concat, List.filter_append, List.filter_append, ← ih]
    by_cases hkeep : keep a = true
    · -- What is kept is new among all exactly if it is new among what is kept.
      have hmem : a ∈ l.filter keep ↔ a ∈ l := by simp [hkeep]
      rw [List.filter_cons_of_pos hkeep, List.filter_nil, eraseDups_concat, if_congr hmem rfl rfl]
      split <;> simp [hkeep]
    · rw [List.filter_cons_of_neg hkeep, List.filter_nil, List.append_nil]
      split <;> simp [hkeep]

/-- Of the things that are kept each comes where it first came. -/
theorem pairwise_idxOf_eraseDups (l : List α) : l.eraseDups.Pairwise fun x y => l.idxOf x < l.idxOf y := by
  induction l using List.reverseRecOn with
  | nil => simp
  | append_singleton l a ih =>
    have hold : l.eraseDups.Pairwise fun x y => (l ++ [a]).idxOf x < (l ++ [a]).idxOf y := by
      refine ih.imp_of_mem fun hx hy hlt => ?_
      rw [List.idxOf_append_of_mem (List.mem_eraseDups.mp hx), List.idxOf_append_of_mem (List.mem_eraseDups.mp hy)]
      exact hlt
    rw [eraseDups_concat]
    by_cases hmem : a ∈ l
    · simpa [hmem] using hold
    · rw [if_neg hmem, List.pairwise_append]
      refine ⟨hold, List.pairwise_singleton _ _, fun x hx y hy => ?_⟩
      have hx' : x ∈ l := List.mem_eraseDups.mp hx
      obtain rfl := List.mem_singleton.mp hy
      -- The new thing stands behind the whole list.
      rw [List.idxOf_append_of_mem hx', List.idxOf_append_of_notMem hmem]
      have hlt : l.idxOf x < l.length := List.idxOf_lt_length_of_mem hx'
      omega

theorem nodup_eraseDups (l : List α) : l.eraseDups.Nodup := by
  refine (pairwise_idxOf_eraseDups l).imp ?_
  rintro x y hlt rfl
  exact absurd hlt (Nat.lt_irrefl _)

end ProfileBindings
