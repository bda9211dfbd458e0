import ProfileBindings.Json.Basic
import ProfileBindings.Proofs.Sorted.Table

/-!
# Keys of objects

A text may repeat a key, but an object has each of its keys once: a repeated key takes the place of the first
one. In such an object, being a member and being found under a key are the same.

* `Json.WellKeyed` : no object in a value has a key twice.

Main statements:
* `Fields.mem_iff_get?` : a member is what its key stands for;
* `WellKeyed.insert` : giving a key its value keeps the keys apart.
-/

namespace ProfileBindings.Json

namespace Fields

variable {fields : Fields} {name : String} {v : Json}

/-- Members are looked up as the entries of a table are. -/
theorem get?_eq_lookUp (fields : Fields) (name : String) : fields.get? name = Sorted.lookUp name fields := by
  induction fields with
  | nil => rfl
  | cons field rest ih => rw [get?, Sorted.lookUp, ih]

theorem mem_of_get? (h : fields.get? name = some v) : (name, v) ∈ fields := by
  rw [get?_eq_lookUp] at h
  exact Sorted.mem_of_lookUp_eq_some h

theorem mem_iff_get? (hkeys : fields.keys.Nodup) : (name, v) ∈ fields ↔ fields.get? name = some v := by
  refine ⟨fun h => ?_, mem_of_get?⟩
  rw [get?_eq_lookUp]
  exact Sorted.lookUp_eq_some_of_mem hkeys h

/-- What stands among the members once a key has been given its value. -/
theorem eq_or_mem_of_mem_insert {field : String × Json} (h : field ∈ fields.insert name v) :
    field = (name, v) ∨ field ∈ fields := by
  induction fields with
  | nil => exact Or.inl (List.mem_singleton.mp h)
  | cons first rest ih =>
    obtain ⟨k, w⟩ := first
    rw [insert] at h
    split at h
    · next hk =>
      rw [hk] at h
      exact (List.mem_cons.mp h).imp_right (List.mem_cons_of_mem _)
    · rcases List.mem_cons.mp h with heq | hmem
      · exact Or.inr (heq ▸ List.mem_cons_self)
      · exact (ih hmem).imp_right (List.mem_cons_of_mem _)

theorem mem_keys_iff : name ∈ fields.keys ↔ ∃ v, fields.get? name = some v := by
  induction fields with
  | nil => simp [keys, get?]
  | cons field rest ih =>
    obtain ⟨k, v⟩ := field
    by_cases hk : k = name
    · simp [keys, get?, hk]
    · have hk' : name ≠ k := fun h => hk h.symm
      simpa [keys, get?, hk, hk'] using ih

end Fields

mutual

/-- No object in the value has a key twice. -/
def WellKeyed : Json → Prop
  | .arr items => ItemsWellKeyed items
  | .obj fields => (Fields.keys fields).Nodup ∧ MembersWellKeyed fields
  | _ => True

/-- The same for items. -/
def ItemsWellKeyed : List Json → Prop
  | [] => True
  | v :: rest => WellKeyed v ∧ ItemsWellKeyed rest

/-- The same for members. -/
def MembersWellKeyed : List (String × Json) → Prop
  | [] => True
  | (_, v) :: rest => WellKeyed v ∧ MembersWellKeyed rest

end

theorem itemsWellKeyed_iff {items : List Json} : ItemsWellKeyed items ↔ ∀ v ∈ items, WellKeyed v := by
  induction items with
  | nil => simp [ItemsWellKeyed]
  | cons v rest ih => rw [ItemsWellKeyed, ih, List.forall_mem_cons]

theorem membersWellKeyed_iff {fields : Fields} :
    MembersWellKeyed fields ↔ ∀ field ∈ fields, WellKeyed field.2 := by
  induction fields with
  | nil => simp [MembersWellKeyed]
  | cons field rest ih => rw [MembersWellKeyed, ih, List.forall_mem_cons]

theorem wellKeyed_obj_iff {fields : Fields} :
    WellKeyed (.obj fields) ↔ fields.keys.Nodup ∧ ∀ field ∈ fields, WellKeyed field.2 := by
  rw [WellKeyed, membersWellKeyed_iff]

theorem wellKeyed_empty : WellKeyed (.obj []) :=
  wellKeyed_obj_iff.mpr ⟨List.nodup_nil, fun _ h => by contradiction⟩

theorem WellKeyed.insert {fields : Fields} {name : String} {v : Json} (h : WellKeyed (.obj fields))
    (hv : v.WellKeyed) : WellKeyed (.obj (fields.insert name v)) := by
  obtain ⟨hkeys, hmembers⟩ := wellKeyed_obj_iff.mp h
  refine wellKeyed_obj_iff.mpr ⟨Fields.nodup_keys_insert hkeys, fun field hfield => ?_⟩
  rcases Fields.eq_or_mem_of_mem_insert hfield with rfl | hmem
  · exact hv
  · exact hmembers field hmem

end ProfileBindings.Json
