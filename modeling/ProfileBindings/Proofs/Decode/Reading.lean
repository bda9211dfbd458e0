import Mathlib.Data.List.Nodup
import ProfileBindings.Decode.Record
import ProfileBindings.Proofs.Json.Keys
import ProfileBindings.Proofs.Steps

/-!
# What typed reading accepts

A reader of values accepts the values that spell out its result. A record is spelt out in two ways: an object
has its fields under their names, and a list has all of them, one after the other.

* `Gives` : the fields that a value gives, in either way.

Main statement: `record_eq_ok_iff`, a record is read from a value exactly if the value gives its fields. The
last of the declared fields must be one that has to be there: a list cannot break off in front of it.
-/

namespace ProfileBindings.Decode

variable {v : Json} {fields : Json.Fields} {name : String} {α : Type}

/-! ## Values -/

theorem text_eq_ok_iff {s : String} : text v = .ok s ↔ v = .str s := by
  cases v <;> simp [text]

theorem texts_eq_ok_iff {words : List String} : texts v = .ok words ↔ v = .arr (words.map .str) := by
  cases v with
  | arr items =>
    simp only [texts, mapM_eq_ok_iff, text_eq_ok_iff, Json.arr.injEq]
    rw [← List.forall₂_eq_eq_eq, List.forall₂_map_right_iff]
    exact ⟨List.Forall₂.flip, List.Forall₂.flip⟩
  | _ => simp [texts]

theorem members_eq_ok_iff : members v = .ok fields ↔ v = .obj fields := by
  cases v <;> simp [members]

theorem count_eq_ok_iff {n : Nat} : count v = .ok n ↔ v = .int n := by
  cases v with
  | int m =>
    by_cases hm : 0 ≤ m
    · have hcast : m.toNat = n ↔ m = (n : Int) := by omega
      simp [count, hm, hcast]
    · have hne : m ≠ (n : Int) := by omega
      simp [count, hm, hne]
  | _ => simp [count]

theorem fault?_eq_none_iff {x : Except Fault α} : fault? x = none ↔ ∃ a, x = .ok a := by
  cases x <;> simp [fault?]

/-! ## Fields -/

theorem require_eq_ok_iff {source : Source} {read : Json → Except Fault α} {a : α} :
    source.require name read = .ok a ↔ ∃ w, source.fields.get? name = some w ∧ read w = .ok a := by
  unfold Source.require
  cases source.fields.get? name <;> simp

theorem optional_eq_ok_iff {source : Source} {absent : α} {read : Json → Except Fault α} {a : α} :
    source.optional name absent read = .ok a ↔
      (∃ w, source.fields.get? name = some w ∧ read w = .ok a) ∨
        source.fields.get? name = none ∧ a = absent := by
  unfold Source.optional
  cases source.fields.get? name <;> simp [eq_comm]

/-- What is there under a name can be read. -/
def IsReadable (fields : Json.Fields) (field : String × (Json → Option Fault)) : Prop :=
  ∀ w, fields.get? field.1 = some w → field.2 w = none

theorem isReadable_of_get? {read : Json → Except Fault α} {a : α}
    (h : ∃ w, fields.get? name = some w ∧ read w = .ok a) :
    IsReadable fields (name, fun w => fault? (read w)) := by
  obtain ⟨w, hget, hread⟩ := h
  intro u hu
  obtain rfl : w = u := Option.some.inj (hget.symm.trans hu)
  simp only [hread, fault?]

theorem isReadable_of_get?_none {read : Json → Option Fault} (h : fields.get? name = none) :
    IsReadable fields (name, read) := by
  intro w hw
  rw [h] at hw
  contradiction

/-! ## Records -/

/-- A value gives the fields of a record: an object by their names, a list as all of them in their order. -/
inductive Gives (names : List String) : Json → Json.Fields → Prop where
  | named (fields : Json.Fields) : Gives names (.obj fields) fields
  | listed {items : List Json} (hlength : items.length = names.length) :
    Gives names (.arr items) (names.zip items)

variable {form : RecordForm} {source : Source}

/-- The fields that a value gives have no name twice. -/
theorem Gives.nodup_keys {names : List String} (h : Gives names v fields) (hnames : names.Nodup)
    (hkeys : v.WellKeyed) : fields.keys.Nodup := by
  cases h with
  | named => exact (Json.wellKeyed_obj_iff.mp hkeys).1
  | listed hlength => rwa [Json.Fields.keys, List.map_fst_zip (Nat.le_of_eq hlength.symm)]

theorem Gives.wellKeyed {names : List String} (h : Gives names v fields) (hkeys : v.WellKeyed) :
    ∀ field ∈ fields, field.2.WellKeyed := by
  cases h with
  | named => exact (Json.wellKeyed_obj_iff.mp hkeys).2
  | listed => exact fun field hfield => Json.itemsWellKeyed_iff.mp hkeys _ (List.of_mem_zip hfield).2

/-- The fields that a value gives make a source if those that are there can be read. -/
theorem source_of_gives (hopen : form.closed = false) (hnames : form.names.Nodup) (hkeys : v.WellKeyed)
    (hgives : Gives form.names v fields) (h : ∀ field ∈ form.fields, IsReadable fields field) :
    ∃ listed, form.source v = .ok ⟨form, listed, fields⟩ := by
  have hnone : form.firstFault? fields = none := by
    rw [RecordForm.firstFault?, List.findSome?_eq_none_iff]
    intro field hfield
    rw [RecordForm.faultAt?]
    cases hfind : form.fields.find? (·.1 == field.1) with
    | none => simp [hopen]
    | some entry =>
      have hname : entry.1 = field.1 := by simpa using List.find?_some hfind
      refine h entry (List.mem_of_find?_eq_some hfind) _ ?_
      -- No other member has this name, so that the member is what is found under it.
      rw [hname]
      exact (Json.Fields.mem_iff_get? (hgives.nodup_keys hnames hkeys)).mp hfield
  cases hgives with
  | named => exact ⟨false, by rw [RecordForm.source, hnone]⟩
  | listed hlength => exact ⟨true, by rw [RecordForm.source, hnone]; exact if_neg (by omega)⟩

/-- The fields of a source are those of an object, or the beginning of the declared ones. -/
theorem source_eq_ok (h : form.source v = .ok source) :
    v = .obj source.fields ∨ ∃ items, v = .arr items ∧ items.length ≤ form.names.length ∧
      source.fields = form.names.zip items := by
  unfold RecordForm.source at h
  split at h
  · split at h
    · contradiction
    · exact .inl (by rw [← Except.ok.inj h])
  · next items =>
    split at h
    · contradiction
    · split at h
      · contradiction
      · next hlength => exact .inr ⟨items, rfl, Nat.le_of_not_gt hlength, by rw [← Except.ok.inj h]⟩
  · contradiction

theorem wellKeyed_of_source (h : form.source v = .ok source) (hkeys : v.WellKeyed) :
    ∀ field ∈ source.fields, field.2.WellKeyed := by
  intro field hfield
  rcases source_eq_ok h with rfl | ⟨items, rfl, -, hfields⟩
  · exact (Json.wellKeyed_obj_iff.mp hkeys).2 field hfield
  · rw [hfields] at hfield
    exact Json.itemsWellKeyed_iff.mp hkeys _ (List.of_mem_zip hfield).2

/-- A list that goes as far as the last of the declared fields has all of them. -/
theorem length_le_of_last_mem_zip {names : List String} {items : List Json} (hnames : names.Nodup)
    (hlast : names.getLast? = some name) {w : Json} (h : (name, w) ∈ names.zip items) :
    names.length ≤ items.length := by
  obtain ⟨i, hi, heq⟩ := List.mem_iff_getElem.mp h
  rw [List.getElem_zip, Prod.mk.injEq] at heq
  rw [List.length_zip] at hi
  have hlast' : names[names.length - 1]? = some name := by rwa [← List.getLast?_eq_getElem?]
  obtain ⟨hlength, hname⟩ := List.getElem?_eq_some_iff.mp hlast'
  have hindex : i = names.length - 1 := (hnames.getElem_inj_iff).mp (heq.1.trans hname.symm)
  omega

/-- A source that has the last of the declared fields has the fields that the value gives. -/
theorem gives_of_source (hnames : form.names.Nodup) (hlast : form.names.getLast? = some name)
    (h : form.source v = .ok source) {w : Json} (hpresent : source.fields.get? name = some w) :
    Gives form.names v source.fields := by
  rcases source_eq_ok h with rfl | ⟨items, rfl, hle, hfields⟩
  · exact .named _
  · rw [hfields] at hpresent ⊢
    have hge := length_le_of_last_mem_zip hnames hlast (Json.Fields.mem_of_get? hpresent)
    exact .listed (Nat.le_antisymm hle hge)

/-- A record is read from a value exactly if the value gives its fields. -/
theorem record_eq_ok_iff {read : Source → Except Fault α} {a : α} (Has : Json.Fields → Prop)
    (hopen : form.closed = false) (hnames : form.names.Nodup) (hkeys : v.WellKeyed)
    (hread : ∀ source : Source, (∀ field ∈ source.fields, field.2.WellKeyed) →
      (read source = .ok a ↔ Has source.fields))
    (hreadable : ∀ fields : Json.Fields, (∀ field ∈ fields, field.2.WellKeyed) → Has fields →
      ∀ field ∈ form.fields, IsReadable fields field)
    (hlast : form.names.getLast? = some name)
    (hpresent : ∀ fields, Has fields → ∃ w, fields.get? name = some w) :
    (form.source v >>= read) = .ok a ↔ ∃ fields, Gives form.names v fields ∧ Has fields := by
  rw [bind_eq_ok_iff]
  constructor
  · rintro ⟨source, hsource, ha⟩
    -- The last field has been found, so that a list did not break off before it.
    have hhas : Has source.fields := (hread source (wellKeyed_of_source hsource hkeys)).mp ha
    obtain ⟨w, hw⟩ := hpresent _ hhas
    exact ⟨source.fields, gives_of_source hnames hlast hsource hw, hhas⟩
  · rintro ⟨fields, hgives, hhas⟩
    have hfields := hgives.wellKeyed hkeys
    obtain ⟨listed, hsource⟩ := source_of_gives hopen hnames hkeys hgives (hreadable fields hfields hhas)
    exact ⟨_, hsource, (hread _ hfields).mpr hhas⟩

end ProfileBindings.Decode
