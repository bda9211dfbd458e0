import ProfileBindings.Proofs.Decode.Reading
import ProfileBindings.Proofs.Json.Change

/-!
# Typed reading of values that have changed

A record is read from the fields that it knows, and from what is found under their names.

* `AtField` : the value of one field has changed, whether the fields are named or listed;
* `Source.Changes` : there has been a change among the fields of a source.

Main statements:
* `alike_of_inserts`, `AtField.alike` : how the source changes with the value;
* `Source.Changes.require_eq`, `Source.Changes.alike_require` : what is then read of a field;
* `AtField.gives` : what a changed value gives.
-/

namespace ProfileBindings.Decode

open Json

variable {v w : Json} {fields fields' : Fields} {name : String} {names : List String} {R : Json → Json → Prop}
  {α : Type}

/-- The value of one field of a record has changed, whether the fields are named or listed. -/
inductive AtField (names : List String) (name : String) (R : Json → Json → Prop) : Json → Json → Prop where
  | named {fields fields' : Fields} (h : Fields.At name R fields fields') :
    AtField names name R (.obj fields) (.obj fields')
  /-- An item stands for the field that is declared in its place. -/
  | listed {front back : List Json} {v w : Json} (hname : names[front.length]? = some name) (h : R v w) :
    AtField names name R (.arr (front ++ v :: back)) (.arr (front ++ w :: back))

theorem at_zip {front : List Json} (back : List Json) (hname : names[front.length]? = some name) (h : R v w) :
    Fields.At name R (names.zip (front ++ v :: back)) (names.zip (front ++ w :: back)) := by
  obtain ⟨hlt, hget⟩ := List.getElem?_eq_some_iff.mp hname
  have hlength : (names.take front.length).length = front.length := List.length_take_of_le (Nat.le_of_lt hlt)
  rw [← List.take_append_drop front.length names, List.drop_eq_getElem_cons hlt, hget, List.zip_append hlength,
    List.zip_append hlength, List.zip_cons_cons, List.zip_cons_cons]
  exact .intro h

/-! ## Sources -/

variable {form : RecordForm} {source source' : Source} {change : Fields → Fields → Prop}

theorem Source.optional_congr (hget : source'.fields.get? name = source.fields.get? name) (absent : α)
    (read : Json → Except Fault α) : source'.optional name absent read = source.optional name absent read := by
  unfold Source.optional
  rw [hget]

/-- There has been a change among the fields of a source. -/
inductive Source.Changes (change : Fields → Fields → Prop) : Source → Source → Prop where
  | intro {form : RecordForm} {listed : Bool} {fields fields' : Fields} (h : change fields fields') :
    Changes change ⟨form, listed, fields⟩ ⟨form, listed, fields'⟩

namespace Source.Changes

theorem of_fields (h : Changes change source source') : change source.fields source'.fields := by
  obtain ⟨hfields⟩ := h
  exact hfields

/-- What is found as before is read as before. -/
theorem require_eq (h : Changes change source source')
    (hget : source'.fields.get? name = source.fields.get? name) (read : Json → Except Fault α) :
    source'.require name read = source.require name read := by
  obtain ⟨-⟩ := h
  unfold Source.require
  rw [hget]
  rfl

/-- A changed field is read alike if its values are. -/
theorem alike_require {Q : α → α → Prop} {read : Json → Except Fault α}
    (h : Changes (Fields.At name R) source source') (hQ : ∀ a, Q a a)
    (hread : ∀ v w, R v w → Alike Q (read v) (read w)) :
    Alike Q (source.require name read) (source'.require name read) := by
  rcases h.of_fields.get?_eq_or with hget | ⟨v, w, hv, hw, hvw⟩
  · rw [h.require_eq hget]
    exact .refl hQ _
  · unfold Source.require
    rw [hv, hw]
    exact hread v w hvw

end Source.Changes

theorem faultAt?_of_not_mem (hopen : form.closed = false) (hname : name ∉ form.names) :
    form.faultAt? name v = none := by
  have hfind : form.fields.find? (·.1 == name) = none := by
    rw [List.find?_eq_none]
    intro field hfield hkey
    exact hname (List.mem_map.mpr ⟨field, hfield, by simpa using hkey⟩)
  rw [RecordForm.faultAt?, hfind]
  exact if_neg (by simp [hopen])

/-- What has no name of the record has no fault, so that it does not come before any other. -/
theorem firstFault?_of_inserts (hopen : form.closed = false) (h : Fields.Inserts form.names fields fields') :
    form.firstFault? fields' = form.firstFault? fields := by
  obtain ⟨hname⟩ := h
  rw [RecordForm.firstFault?, RecordForm.firstFault?, List.findSome?_append, List.findSome?_append,
    List.findSome?_cons, faultAt?_of_not_mem hopen hname]

theorem firstFault?_of_at (hR : ∀ v w, R v w → form.faultAt? name w = form.faultAt? name v)
    (h : Fields.At name R fields fields') : form.firstFault? fields' = form.firstFault? fields := by
  obtain ⟨hvw⟩ := h
  rw [RecordForm.firstFault?, RecordForm.firstFault?, List.findSome?_append, List.findSome?_append,
    List.findSome?_cons, List.findSome?_cons, hR _ _ hvw]

theorem alike_of_inserts (hopen : form.closed = false) (h : InObject (Fields.Inserts form.names) v w) :
    Alike (Source.Changes (Fields.Inserts form.names)) (form.source v) (form.source w) := by
  obtain ⟨hfields⟩ := h
  rw [RecordForm.source, RecordForm.source, firstFault?_of_inserts hopen hfields]
  split
  · exact .error _
  · exact .ok (.intro hfields)

/-- A field that has changed to a value of which the same is to be said leaves the sources alike. -/
theorem AtField.alike (hR : ∀ v w, R v w → form.faultAt? name w = form.faultAt? name v)
    (h : AtField form.names name R v w) :
    Alike (Source.Changes (Fields.At name R)) (form.source v) (form.source w) := by
  cases h with
  | named hfields =>
    rw [RecordForm.source, RecordForm.source, firstFault?_of_at hR hfields]
    split
    · exact .error _
    · exact .ok (.intro hfields)
  | @listed _ back _ _ hname hvw =>
    have hfields := at_zip back hname hvw
    rw [RecordForm.source, RecordForm.source, firstFault?_of_at hR hfields]
    simp only [List.length_append, List.length_cons]
    split
    · exact .error _
    · split
      · exact .error _
      · exact .ok (.intro hfields)

/-! ## What a value gives -/

theorem gives_obj_iff : Gives names (.obj fields) fields' ↔ fields' = fields := by
  constructor
  · rintro ⟨-⟩
    rfl
  · rintro rfl
    exact .named _

/-- A changed value gives fields one of which has changed. -/
theorem AtField.gives (h : AtField names name R v w) (hgives : Gives names v fields) :
    ∃ fields', Gives names w fields' ∧ Fields.At name R fields fields' := by
  cases h with
  | named hfields =>
    obtain rfl := gives_obj_iff.mp hgives
    exact ⟨_, .named _, hfields⟩
  | listed hname hvw =>
    cases hgives with
    | listed hlength => exact ⟨_, .listed (by simpa using hlength), at_zip _ hname hvw⟩

instance [Std.Symm R] : Std.Symm (AtField names name R) where
  symm v w h := by
    cases h with
    | named hfields => exact .named (Std.Symm.symm _ _ hfields)
    | listed hname hvw => exact .listed hname (Std.Symm.symm _ _ hvw)

theorem AtField.keeps_wellKeyed (hR : Keeps WellKeyed R) : Keeps WellKeyed (AtField names name R) := by
  intro v w h hkeys
  cases h with
  | named hfields => exact Fields.At.keeps_wellKeyed hR name ⟨hfields⟩ hkeys
  | listed hname hvw =>
    rw [WellKeyed, itemsWellKeyed_iff] at hkeys ⊢
    simp only [List.forall_mem_append, List.forall_mem_cons] at hkeys ⊢
    exact ⟨hkeys.1, hR hvw hkeys.2.1, hkeys.2.2⟩

end ProfileBindings.Decode
