import Mathlib.Logic.Relation
import ProfileBindings.Proofs.Json.Keys

/-!
# Changes of objects

What can be done to the members of an object, and what is found under a name afterwards.

* `Fields.Inserts` : a member has come in between whose name is none of the known ones;
* `Fields.Permutes` : the members have changed places;
* `Fields.At`, `Fields.AtAny` : the value of one member has changed;
* `InObject` : there has been a change among the members of an object;
* `Ignores`, `Keeps` : a function does not see a change, or what held before it holds behind it.

Main statements: `Fields.Inserts.get?_eq`, `Fields.Permutes.get?_eq` and `Fields.At.get?_eq_or` say what is
found under a name, `Ignores.of_reflTransGen` that what is not seen once is not seen any number of times.
-/

namespace ProfileBindings.Json

namespace Fields

variable {fields fields' front back : Fields} {name other : String} {known : List String}
  {R : Json → Json → Prop}

/-- A member has been put somewhere among the others. Its name is none of the known ones. -/
inductive Inserts (known : List String) : Fields → Fields → Prop where
  | intro {front back : Fields} {name : String} {v : Json} (hname : name ∉ known) :
    Inserts known (front ++ back) (front ++ (name, v) :: back)

/-- The members have changed places. An object has each of its keys once. -/
structure Permutes (fields fields' : Fields) : Prop where
  nodup : fields.keys.Nodup
  perm : fields.Perm fields'

/-- The value of one member of this name has changed. -/
inductive At (name : String) (R : Json → Json → Prop) : Fields → Fields → Prop where
  | intro {front back : Fields} {v w : Json} (h : R v w) :
    At name R (front ++ (name, v) :: back) (front ++ (name, w) :: back)

/-- The value of one member has changed. -/
def AtAny (R : Json → Json → Prop) (fields fields' : Fields) : Prop := ∃ name, At name R fields fields'

/-! ## What is found -/

theorem get?_append (name : String) (front back : Fields) :
    get? name (front ++ back) = (get? name front).or (get? name back) := by
  induction front with
  | nil => rfl
  | cons field front ih =>
    obtain ⟨k, v⟩ := field
    by_cases hk : k = name <;> simp [get?, hk, ih]

theorem Inserts.get?_eq (h : Inserts known fields fields') (hname : name ∈ known) :
    get? name fields' = get? name fields := by
  obtain ⟨hother⟩ := h
  rw [get?_append, get?_append, get?, if_neg (ne_of_mem_of_not_mem hname hother).symm]

theorem Permutes.symm (h : Permutes fields fields') : Permutes fields' fields :=
  ⟨(h.perm.map Prod.fst).nodup_iff.mp h.nodup, h.perm.symm⟩

theorem Permutes.get?_eq (h : Permutes fields fields') (name : String) :
    get? name fields' = get? name fields := by
  ext v
  rw [← mem_iff_get? h.symm.nodup, ← mem_iff_get? h.nodup, h.perm.mem_iff]

theorem At.get?_of_ne (h : At name R fields fields') (hne : other ≠ name) :
    get? other fields' = get? other fields := by
  obtain ⟨-⟩ := h
  rw [get?_append, get?_append, get?, get?, if_neg hne.symm, if_neg hne.symm]

/-- A member that has changed is found unless another one stands before it. -/
theorem At.get?_eq_or (h : At name R fields fields') :
    get? name fields' = get? name fields ∨
      ∃ v w, get? name fields = some v ∧ get? name fields' = some w ∧ R v w := by
  obtain @⟨front, back, v, w, h⟩ := h
  rw [get?_append, get?_append, get?, get?, if_pos rfl, if_pos rfl]
  cases get? name front with
  | none => exact .inr ⟨v, w, rfl, rfl, h⟩
  | some u => exact .inl rfl

theorem At.keys_eq (h : At name R fields fields') : fields'.keys = fields.keys := by
  obtain ⟨-⟩ := h
  simp only [keys, List.map_append, List.map_cons]

/-! ## What is done with all members -/

/-- What fails or succeeds alike with the member that has changed does so with all members. -/
theorem At.mapM_eq {ε α : Type} {f : String × Json → Except ε α} (h : At name R fields fields')
    (hf : ∀ v w, R v w → f (name, w) = f (name, v)) : fields'.mapM f = fields.mapM f := by
  obtain ⟨hvw⟩ := h
  rw [List.mapM_append, List.mapM_append, List.mapM_cons, List.mapM_cons, hf _ _ hvw]

theorem At.forall_mem_iff {P : String × Json → Prop} (h : At name R fields fields')
    (hP : ∀ v w, R v w → (P (name, w) ↔ P (name, v))) :
    (∀ field ∈ fields', P field) ↔ ∀ field ∈ fields, P field := by
  obtain ⟨hvw⟩ := h
  simp only [List.forall_mem_append, List.forall_mem_cons, hP _ _ hvw]

theorem At.forall₂ {α : Type} {Q : α → String × Json → Prop} {l : List α} (h : At name R fields fields')
    (hQ : ∀ a v w, R v w → Q a (name, v) → Q a (name, w)) (hl : List.Forall₂ Q l fields) :
    List.Forall₂ Q l fields' := by
  obtain @⟨front, back, v, w, hvw⟩ := h
  induction front generalizing l with
  | nil =>
    obtain ⟨a, rest, ha, hrest, rfl⟩ := List.forall₂_cons_right_iff.mp hl
    exact .cons (hQ a v w hvw ha) hrest
  | cons field front ih =>
    obtain ⟨a, rest, ha, hrest, rfl⟩ := List.forall₂_cons_right_iff.mp hl
    exact .cons ha (ih hrest)

end Fields

/-! ## Values -/

/-- There has been a change among the members of an object. -/
inductive InObject (change : Fields → Fields → Prop) : Json → Json → Prop where
  | intro {fields fields' : Fields} (h : change fields fields') :
    InObject change (.obj fields) (.obj fields')

/-- The function gives the same in front of the change and behind it. -/
def Ignores {α : Type} (f : Json → α) (change : Json → Json → Prop) : Prop :=
  ∀ ⦃v w⦄, change v w → f w = f v

/-- What is not seen of one change is not seen of any number of them. -/
theorem Ignores.of_reflTransGen {α : Type} {f : Json → α} {change : Json → Json → Prop} (h : Ignores f change)
    {v w : Json} (hchanges : Relation.ReflTransGen change v w) : f w = f v := by
  induction hchanges with
  | refl => rfl
  | tail _ hlast ih => rw [h hlast, ih]

/-- What held in front of the change holds behind it. -/
def Keeps (P : Json → Prop) (change : Json → Json → Prop) : Prop := ∀ ⦃v w⦄, change v w → P v → P w

/-- Where each change can be undone by another, keeping and ignoring are the same. -/
theorem Keeps.ignores {P : Json → Prop} {change : Json → Json → Prop} [Std.Symm change] (h : Keeps P change) :
    Ignores P change :=
  fun _ _ hchange => propext ⟨h (Std.Symm.symm _ _ hchange), h hchange⟩

theorem Keeps.of_reflTransGen {P : Json → Prop} {change : Json → Json → Prop} (h : Keeps P change)
    {v w : Json} (hchanges : Relation.ReflTransGen change v w) (hv : P v) : P w := by
  induction hchanges with
  | refl => exact hv
  | tail _ hlast ih => exact h hlast ih

/-! ## Changes that can be undone -/

variable {R : Json → Json → Prop} {change : Fields → Fields → Prop}

instance : Std.Symm Fields.Permutes where
  symm _ _ h := h.symm

instance [Std.Symm R] {name : String} : Std.Symm (Fields.At name R) where
  symm := by
    rintro _ _ ⟨h⟩
    exact .intro (Std.Symm.symm _ _ h)

instance [Std.Symm R] : Std.Symm (Fields.AtAny R) where
  symm _ _ := fun ⟨name, h⟩ => ⟨name, Std.Symm.symm _ _ h⟩

instance [Std.Symm change] : Std.Symm (InObject change) where
  symm := by
    rintro _ _ ⟨h⟩
    exact .intro (Std.Symm.symm _ _ h)

/-! ## Keys stay apart -/

theorem Fields.Permutes.keeps_wellKeyed : Keeps WellKeyed (InObject Fields.Permutes) := by
  rintro _ _ ⟨h⟩ hkeys
  obtain ⟨-, hmembers⟩ := wellKeyed_obj_iff.mp hkeys
  exact wellKeyed_obj_iff.mpr ⟨h.symm.nodup, fun field hfield => hmembers field (h.perm.mem_iff.mpr hfield)⟩

theorem Fields.At.keeps_wellKeyed (hR : Keeps WellKeyed R) (name : String) :
    Keeps WellKeyed (InObject (Fields.At name R)) := by
  rintro _ _ ⟨h⟩ hkeys
  obtain ⟨hnodup, hmembers⟩ := wellKeyed_obj_iff.mp hkeys
  refine wellKeyed_obj_iff.mpr ⟨h.keys_eq ▸ hnodup, ?_⟩
  obtain ⟨hvw⟩ := h
  simp only [List.forall_mem_append, List.forall_mem_cons] at hmembers ⊢
  exact ⟨hmembers.1, hR hvw hmembers.2.1, hmembers.2.2⟩

theorem Fields.AtAny.keeps_wellKeyed (hR : Keeps WellKeyed R) :
    Keeps WellKeyed (InObject (Fields.AtAny R)) :=
  fun _ _ ⟨name, h⟩ => Fields.At.keeps_wellKeyed hR name (.intro h)

end ProfileBindings.Json
