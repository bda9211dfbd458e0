import Mathlib.Data.List.Nodup
import ProfileBindings.Sorted.Table

/-!
# Looking things up in sorted tables

Main statements:
* `Table.get?_eq_some_iff` : a key stands for a value exactly if the two are an entry;
* `Table.nodup_keys` : no key has two entries;
* `Table.ext_get?` : a table is told by what its keys stand for;
* `Table.get?_ofList` : what the keys of the table of a list stand for.
-/

namespace ProfileBindings.Sorted

variable {κ α : Type}

theorem mem_of_lookUp_eq_some [DecidableEq κ] {key : κ} {value : α} {l : List (κ × α)}
    (h : lookUp key l = some value) : (key, value) ∈ l := by
  induction l with
  | nil => simp [lookUp] at h
  | cons entry rest ih =>
    obtain ⟨k, v⟩ := entry
    simp only [lookUp] at h
    split at h
    · next hk =>
      obtain rfl : v = value := by simpa using h
      rw [hk]
      exact List.mem_cons_self
    · exact List.mem_cons_of_mem _ (ih h)

theorem lookUp_eq_some_of_mem [DecidableEq κ] {key : κ} {value : α} {l : List (κ × α)}
    (hkeys : (l.map Prod.fst).Nodup) (h : (key, value) ∈ l) : lookUp key l = some value := by
  induction l with
  | nil => contradiction
  | cons entry rest ih =>
    obtain ⟨k, v⟩ := entry
    rw [List.map_cons, List.nodup_cons] at hkeys
    rcases List.mem_cons.mp h with heq | hrest
    · obtain ⟨rfl, rfl⟩ := Prod.mk.inj heq
      simp [lookUp]
    · have hkey : key ∈ rest.map Prod.fst := List.mem_map.mpr ⟨_, hrest, rfl⟩
      have hne : k ≠ key := fun hk => hkeys.1 (hk ▸ hkey)
      simp [lookUp, hne, ih hkeys.2 hrest]

theorem lookUp_eq_find? [DecidableEq κ] (key : κ) (l : List (κ × α)) :
    lookUp key l = (l.find? fun entry => entry.1 = key).map Prod.snd := by
  induction l with
  | nil => rfl
  | cons entry rest ih =>
    obtain ⟨k, v⟩ := entry
    by_cases hk : k = key <;> simp [lookUp, hk, ih]

namespace Table

variable [LT κ] [Std.Irrefl (α := κ) (· < ·)]

theorem nodup_keys (t : Table κ α) : (t.entries.map Prod.fst).Nodup := by
  refine t.ascending.imp ?_
  rintro a b hlt rfl
  exact Std.lt_irrefl hlt

theorem get?_eq_some_iff [DecidableEq κ] {t : Table κ α} {key : κ} {value : α} :
    t.get? key = some value ↔ (key, value) ∈ t.entries :=
  ⟨mem_of_lookUp_eq_some, lookUp_eq_some_of_mem t.nodup_keys⟩

/-- A table is told by what its keys stand for. -/
theorem ext_get? [DecidableEq κ] [Trans (α := κ) (· < ·) (· < ·) (· < ·)] {s t : Table κ α}
    (h : ∀ key, s.get? key = t.get? key) : s = t := by
  have hmem : ∀ entry, entry ∈ s.entries ↔ entry ∈ t.entries := by
    rintro ⟨key, value⟩
    rw [← get?_eq_some_iff, ← get?_eq_some_iff, h]
  have hperm : s.entries.Perm t.entries :=
    (List.perm_ext_iff_of_nodup s.nodup_keys.of_map t.nodup_keys.of_map).mpr hmem
  refine ext_entries (hperm.eq_of_pairwise ?_ (List.pairwise_map.mp s.ascending)
    (List.pairwise_map.mp t.ascending))
  intro a b _ _ hab hba
  exact absurd (Std.lt_trans hab hba) Std.lt_irrefl

/-- A list whose keys are distinct gives the table in which each key stands for what the list has for it. -/
theorem get?_ofList [DecidableLT κ] [DecidableEq κ] [Trans (α := κ) (· < ·) (· < ·) (· < ·)]
    [Std.Trichotomous (α := κ) (· < ·)] {l : List (κ × α)} (hkeys : (l.map Prod.fst).Nodup) (key : κ) :
    (ofList l).get? key = lookUp key l := by
  have hfold : ∀ t : Table κ α, (l.foldl (fun t entry => t.insert entry.1 entry.2) t).get? key =
      (lookUp key l).or (t.get? key) := by
    induction l with
    | nil => exact fun _ => rfl
    | cons entry rest ih =>
      obtain ⟨k, v⟩ := entry
      rw [List.map_cons, List.nodup_cons] at hkeys
      intro t
      rw [List.foldl_cons, ih hkeys.2, get?_insert, lookUp]
      by_cases hk : k = key
      · -- The key does not come again, so that its value stays.
        have hnone : lookUp key rest = none := by
          refine Option.eq_none_iff_forall_ne_some.mpr fun v hv => hkeys.1 ?_
          exact List.mem_map.mpr ⟨_, mem_of_lookUp_eq_some hv, hk.symm⟩
        simp [hk, hnone]
      · simp [hk]
  rw [ofList, hfold]
  exact Option.or_none

end Table

namespace Set

theorem nodup_toList [LT κ] [Std.Irrefl (α := κ) (· < ·)] (s : Set κ) : s.toList.Nodup := by
  refine s.ascending.imp ?_
  rintro a b hlt rfl
  exact Std.lt_irrefl hlt

end Set

end ProfileBindings.Sorted
