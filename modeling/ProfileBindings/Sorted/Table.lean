import ProfileBindings.Sorted.Set

/-!
# Sorted tables

A finite table from keys to values, kept as a list of entries whose keys ascend strictly. Walking through
a table therefore never depends on the order in which the entries came.

Main definitions: `Sorted.Table`, `Table.get?`, `Table.update`, `Table.insert`, `Table.ofList`.

Main statements: `Table.get?_update` says what each key stands for after an update.
-/

namespace ProfileBindings.Sorted

variable {κ α : Type}

/-- The value of a key. -/
def lookUp [DecidableEq κ] (key : κ) : List (κ × α) → Option α
  | [] => none
  | (k, v) :: rest => if k = key then some v else lookUp key rest

/-- The entries with the value of one key replaced by `f` of what it was before. A new key is put into
its place. -/
def updateIn [LT κ] [DecidableLT κ] [DecidableEq κ] (key : κ) (f : Option α → α) :
    List (κ × α) → List (κ × α)
  | [] => [(key, f none)]
  | (k, v) :: rest =>
    if key < k then (key, f none) :: (k, v) :: rest
    else if k = key then (k, f (some v)) :: rest
    else (k, v) :: updateIn key f rest

/-- A table as the list of its entries, keys ascending. -/
structure Table (κ α : Type) [LT κ] where
  entries : List (κ × α)
  ascending : (entries.map Prod.fst).Pairwise (· < ·)
deriving DecidableEq

namespace Table

variable [LT κ] [DecidableLT κ] [DecidableEq κ]

omit [DecidableLT κ] [DecidableEq κ] in
theorem ext_entries {s t : Table κ α} (h : s.entries = t.entries) : s = t := by
  cases s; cases t; cases h; rfl

theorem mem_keys_updateIn {key x : κ} {f : Option α → α} {l : List (κ × α)} :
    x ∈ (updateIn key f l).map Prod.fst ↔ x = key ∨ x ∈ l.map Prod.fst := by
  induction l with
  | nil => simp [updateIn]
  | cons entry rest ih =>
    obtain ⟨k, v⟩ := entry
    simp only [updateIn]
    split
    · simp
    · split
      · next h => subst h; simp
      · simp only [List.map_cons, List.mem_cons, ih]
        exact ⟨fun h => by rcases h with h | h | h <;> simp [h],
          fun h => by rcases h with h | h | h <;> simp [h]⟩

theorem ascending_updateIn [Trans (α := κ) (· < ·) (· < ·) (· < ·)]
    [Std.Trichotomous (α := κ) (· < ·)] {key : κ} {f : Option α → α} {l : List (κ × α)}
    (h : (l.map Prod.fst).Pairwise (· < ·)) :
    ((updateIn key f l).map Prod.fst).Pairwise (· < ·) := by
  induction l with
  | nil => simp [updateIn]
  | cons entry rest ih =>
    obtain ⟨k, v⟩ := entry
    have hk := (List.pairwise_cons.mp h).1
    have hr := (List.pairwise_cons.mp h).2
    simp only [updateIn]
    split
    · next hlt =>
      refine List.pairwise_cons.mpr ⟨fun x hx => ?_, h⟩
      rcases List.mem_cons.mp hx with rfl | hx
      · exact hlt
      · exact Std.lt_trans hlt (hk x hx)
    · next hlt =>
      split
      · exact List.pairwise_cons.mpr ⟨hk, hr⟩
      · next hne =>
        refine List.pairwise_cons.mpr ⟨fun x hx => ?_, ih hr⟩
        rcases mem_keys_updateIn.mp hx with rfl | hx
        · refine Classical.byContradiction fun hkx => hne ?_
          exact Std.Trichotomous.trichotomous _ _ hkx hlt
        · exact hk x hx

theorem lookUp_updateIn [Trans (α := κ) (· < ·) (· < ·) (· < ·)] [Std.Irrefl (α := κ) (· < ·)]
    {key other : κ} {f : Option α → α} {l : List (κ × α)} (h : (l.map Prod.fst).Pairwise (· < ·)) :
    lookUp other (updateIn key f l) =
      if key = other then some (f (lookUp key l)) else lookUp other l := by
  induction l with
  | nil => simp [updateIn, lookUp]
  | cons entry rest ih =>
    obtain ⟨k, v⟩ := entry
    have hk := (List.pairwise_cons.mp h).1
    have hr := (List.pairwise_cons.mp h).2
    have absent : ∀ {l : List (κ × α)}, (∀ x ∈ l.map Prod.fst, key < x) → lookUp key l = none := by
      intro l hl
      induction l with
      | nil => rfl
      | cons e l ih =>
        have ne : e.1 ≠ key := fun he => Std.lt_irrefl (he ▸ hl e.1 (by simp) : key < key)
        simp only [lookUp, ne, if_false]
        exact ih fun x hx => hl x (List.mem_cons_of_mem _ hx)
    simp only [updateIn]
    split
    · next hlt =>
      have none_here : lookUp key ((k, v) :: rest) = none := absent (by
        intro x hx
        rcases List.mem_cons.mp hx with rfl | hx
        · exact hlt
        · exact Std.lt_trans hlt (hk x hx))
      rw [none_here]
      simp only [lookUp]
    · split
      · next heq => subst heq; by_cases ho : k = other <;> simp [lookUp, ho]
      · next hne =>
        simp only [lookUp, hne, if_false, ih hr]
        by_cases ho : k = other
        · subst ho
          have ne : ¬key = k := fun e => hne e.symm
          simp [ne]
        · simp [ho]

variable [Trans (α := κ) (· < ·) (· < ·) (· < ·)] [Std.Trichotomous (α := κ) (· < ·)]

/-- The table without entries. -/
def empty : Table κ α := ⟨[], ascending_nil⟩

/-- The value of a key. -/
def get? (t : Table κ α) (key : κ) : Option α := lookUp key t.entries

/-- Replace the value of a key by `f` of what it was before. -/
def update (t : Table κ α) (key : κ) (f : Option α → α) : Table κ α :=
  ⟨updateIn key f t.entries, ascending_updateIn t.ascending⟩

/-- Give a key its value. -/
def insert (t : Table κ α) (key : κ) (value : α) : Table κ α := t.update key fun _ => value

/-- The table of a list of entries; the last value of a key counts. -/
def ofList (l : List (κ × α)) : Table κ α := l.foldl (fun t entry => t.insert entry.1 entry.2) empty

/-- The keys. -/
def keys (t : Table κ α) : Set κ := ⟨t.entries.map Prod.fst, t.ascending⟩

theorem get?_update [Std.Irrefl (α := κ) (· < ·)] {t : Table κ α} {key other : κ}
    {f : Option α → α} :
    (t.update key f).get? other = if key = other then some (f (t.get? key)) else t.get? other :=
  lookUp_updateIn t.ascending

theorem get?_insert [Std.Irrefl (α := κ) (· < ·)] {t : Table κ α} {key other : κ} {value : α} :
    (t.insert key value).get? other = if key = other then some value else t.get? other :=
  get?_update

end Table

end ProfileBindings.Sorted
