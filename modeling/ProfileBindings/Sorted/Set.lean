/-!
# Sorted sets

A finite set kept as the strictly ascending list of its members, so that two sets with the same members
are the same value, whatever the order in which the members came.

Main definitions: `Sorted.Set`, `Set.insert`, `Set.ofList`, `Set.contains`.

Main statements: `Set.mem_insert` and `Set.mem_ofList` say what the members are, `Set.ext_mem` that nothing
else matters.
-/

namespace ProfileBindings.Sorted

variable {κ : Type}

/-- A value put into its place of an ascending list; a value that is already there is not repeated. -/
def insertInto [LT κ] [DecidableLT κ] [DecidableEq κ] (a : κ) : List κ → List κ
  | [] => [a]
  | b :: rest =>
    if a < b then a :: b :: rest
    else if a = b then b :: rest
    else b :: insertInto a rest

theorem mem_insertInto [LT κ] [DecidableLT κ] [DecidableEq κ] {a x : κ} {l : List κ} :
    x ∈ insertInto a l ↔ x = a ∨ x ∈ l := by
  induction l with
  | nil => simp [insertInto]
  | cons b rest ih =>
    simp only [insertInto]
    split
    · simp
    · split
      · next h => subst h; simp
      · simp only [List.mem_cons, ih]
        exact ⟨fun h => by rcases h with h | h | h <;> simp [h],
          fun h => by rcases h with h | h | h <;> simp [h]⟩

theorem ascending_nil [LT κ] : ([] : List κ).Pairwise (· < ·) := List.Pairwise.nil

/-- An ascending list is determined by its members: the head of each list is the least of them. -/
theorem eq_of_ascending [LT κ] [Std.Irrefl (α := κ) (· < ·)] [Trans (α := κ) (· < ·) (· < ·) (· < ·)]
    {l m : List κ} (hl : l.Pairwise (· < ·)) (hm : m.Pairwise (· < ·)) (h : ∀ x, x ∈ l ↔ x ∈ m) :
    l = m := by
  induction l generalizing m with
  | nil =>
    cases m with
    | nil => rfl
    | cons b m => exact absurd ((h b).mpr List.mem_cons_self) List.not_mem_nil
  | cons a l ih =>
    cases m with
    | nil => exact absurd ((h a).mp List.mem_cons_self) List.not_mem_nil
    | cons b m =>
      have ha := List.pairwise_cons.mp hl
      have hb := List.pairwise_cons.mp hm
      have hab : a = b := by
        rcases List.mem_cons.mp ((h a).mp List.mem_cons_self) with hab | hab
        · exact hab
        · rcases List.mem_cons.mp ((h b).mpr List.mem_cons_self) with hba | hba
          · exact hba.symm
          · exact absurd (Std.lt_trans (ha.1 b hba) (hb.1 a hab)) (Std.lt_irrefl (a := a))
      subst hab
      have hrest : ∀ x, x ∈ l ↔ x ∈ m := by
        intro x
        constructor
        · intro hx
          rcases List.mem_cons.mp ((h x).mp (List.mem_cons_of_mem a hx)) with e | hx'
          · exact absurd (e ▸ ha.1 x hx) (Std.lt_irrefl (a := a))
          · exact hx'
        · intro hx
          rcases List.mem_cons.mp ((h x).mpr (List.mem_cons_of_mem a hx)) with e | hx'
          · exact absurd (e ▸ hb.1 x hx) (Std.lt_irrefl (a := a))
          · exact hx'
      rw [ih ha.2 hb.2 hrest]

/-- A set as the ascending list of its members. -/
structure Set (κ : Type) [LT κ] where
  toList : List κ
  ascending : toList.Pairwise (· < ·)

namespace Set

variable [LT κ] [DecidableLT κ] [DecidableEq κ]
variable [Trans (α := κ) (· < ·) (· < ·) (· < ·)] [Std.Trichotomous (α := κ) (· < ·)]

omit [DecidableLT κ] [DecidableEq κ] [Std.Trichotomous (α := κ) (· < ·)] in
theorem ext_mem [Std.Irrefl (α := κ) (· < ·)] {s t : Set κ} (h : ∀ x, x ∈ s.toList ↔ x ∈ t.toList) :
    s = t := by
  obtain ⟨l, hl⟩ := s
  obtain ⟨m, hm⟩ := t
  have e : l = m := eq_of_ascending hl hm h
  subst e
  rfl

theorem ascending_insertInto {a : κ} {l : List κ} (h : l.Pairwise (· < ·)) :
    (insertInto a l).Pairwise (· < ·) := by
  induction l with
  | nil => simp [insertInto]
  | cons b rest ih =>
    have hb := (List.pairwise_cons.mp h).1
    have hr := (List.pairwise_cons.mp h).2
    simp only [insertInto]
    split
    · next hab =>
      refine List.pairwise_cons.mpr ⟨fun x hx => ?_, h⟩
      rcases List.mem_cons.mp hx with rfl | hx
      · exact hab
      · exact Std.lt_trans hab (hb x hx)
    · next hab =>
      split
      · exact h
      · next hne =>
        refine List.pairwise_cons.mpr ⟨fun x hx => ?_, ih hr⟩
        rcases mem_insertInto.mp hx with rfl | hx
        · refine Classical.byContradiction fun hba => hne ?_
          exact Std.Trichotomous.trichotomous _ _ hab hba
        · exact hb x hx

/-- The set without members. -/
def empty : Set κ := ⟨[], ascending_nil⟩

/-- Put a value into a set. -/
def insert (a : κ) (s : Set κ) : Set κ := ⟨insertInto a s.toList, ascending_insertInto s.ascending⟩

/-- The set of the values of a list. -/
def ofList (l : List κ) : Set κ := l.foldr insert empty

/-- The value is a member. -/
def contains (s : Set κ) (a : κ) : Bool := s.toList.contains a

/-- The number of members. -/
def size (s : Set κ) : Nat := s.toList.length

@[simp] theorem mem_insert {a x : κ} {s : Set κ} :
    x ∈ (s.insert a).toList ↔ x = a ∨ x ∈ s.toList := mem_insertInto

@[simp] theorem mem_ofList {x : κ} {l : List κ} : x ∈ (ofList l).toList ↔ x ∈ l := by
  induction l with
  | nil => simp [ofList, empty]
  | cons a rest ih =>
    have h : ofList (a :: rest) = (ofList rest).insert a := rfl
    rw [h, mem_insert, ih, List.mem_cons]

end Set

/-! ## Texts in order -/

instance instTransText : Trans (α := String) (· < ·) (· < ·) (· < ·) := ⟨fun h h' => String.lt_trans h h'⟩

instance instTrichotomousText : Std.Trichotomous (α := String) (· < ·) :=
  ⟨fun _ _ h h' => String.le_antisymm (String.not_lt.mp h') (String.not_lt.mp h)⟩

end ProfileBindings.Sorted
