import Mathlib.Data.Set.List
import ProfileBindings.Profile.Document
import ProfileBindings.Proofs.Decode.Reading
import ProfileBindings.Proofs.Profile.Name
import ProfileBindings.Proofs.Sorted.Table

/-!
# The values that documents are read from

A document is read from the values that spell it out, and from no other value. What stands under the names of
a profile and of a sub-path is said part by part; the names of either may come in any order and among any
others, or not at all, if the fields are listed.

* `BindingTable.SpelledBy` : an object says what components are bound to;
* `SubPath.SpelledBy`, `Profile.SpelledBy` : a member of an object spells out a sub-path, or a profile;
* `Document.Lists` : a value lists profiles;
* `Document.SpelledBy` : a value lists what spells out the profiles of a document.

Main statements:
* `SubPath.read_eq_ok_iff`, `Profile.read_eq_ok_iff`, `Document.read_eq_ok_iff` : what is read is what is
  spelt out;
* `Document.distinct_of_read` : the names in a document that was read are distinct.
-/

namespace ProfileBindings

open Decode

variable {v : Json} {key : String}

/-! ## Bindings -/

theorem SubPath.writeOptional_injective : Function.Injective writeOptional := by
  intro a b h
  cases a <;> cases b <;> simp_all [writeOptional]

theorem optionalText_eq_ok_iff {found : Option String} :
    optionalText v = .ok found ↔ v = SubPath.writeOptional found := by
  cases v <;> cases found <;> simp [optionalText, text, Except.map, SubPath.writeOptional]

/-- The member of an object that is an entry of a table. -/
def BindingTable.member (entry : String × Option String) : String × Json :=
  (entry.1, SubPath.writeOptional entry.2)

theorem textsByName_eq_ok_iff {l : List (String × Option String)} :
    textsByName v = .ok l ↔ v = .obj (l.map BindingTable.member) := by
  have hentry : ∀ (entry : String × Option String) (field : String × Json),
      (optionalText field.2).map (field.1, ·) = .ok entry ↔ BindingTable.member entry = field := by
    rintro ⟨name, found⟩ ⟨key, w⟩
    rw [map_eq_ok_iff]
    simp only [optionalText_eq_ok_iff, BindingTable.member, Prod.mk.injEq]
    constructor
    · rintro ⟨found, rfl, rfl, rfl⟩
      exact ⟨rfl, rfl⟩
    · rintro ⟨rfl, rfl⟩
      exact ⟨found, rfl, rfl, rfl⟩
  have hentries : ∀ entries : Json.Fields,
      (entries.mapM fun field => (optionalText field.2).map (field.1, ·)) = .ok l ↔
        l.map BindingTable.member = entries := by
    intro entries
    simp only [mapM_eq_ok_iff, hentry]
    rw [← List.forall₂_map_left_iff, List.forall₂_eq_eq_eq]
  simp only [textsByName, bind_eq_ok_iff, members_eq_ok_iff, hentries]
  exact ⟨fun ⟨_, hv, hl⟩ => hl ▸ hv, fun hv => ⟨_, hv, rfl⟩⟩

theorem keys_map_member (l : List (String × Option String)) :
    Json.Fields.keys (l.map BindingTable.member) = l.map Prod.fst := by
  rw [Json.Fields.keys, List.map_map]
  rfl

theorem get?_map_member (l : List (String × Option String)) (component : String) :
    Json.Fields.get? component (l.map BindingTable.member) =
      (Sorted.lookUp component l).map SubPath.writeOptional := by
  induction l with
  | nil => rfl
  | cons entry l ih =>
    by_cases hkey : entry.1 = component <;>
      simp [BindingTable.member, Json.Fields.get?, Sorted.lookUp, hkey, ih]

/-- Members that are texts or `null` have been written for the entries of a table. -/
theorem exists_map_member {entries : Json.Fields}
    (h : ∀ field ∈ entries, ∃ found, field.2 = SubPath.writeOptional found) :
    ∃ l : List (String × Option String), l.map BindingTable.member = entries := by
  have hrange : entries ∈ Set.range (List.map BindingTable.member) := by
    rw [Set.range_list_map]
    rintro ⟨component, w⟩ hmem
    obtain ⟨found, rfl⟩ := h _ hmem
    exact ⟨(component, found), rfl⟩
  exact hrange

namespace BindingTable

/-- Members list a table: a text for a component that is bound, `null` for one that has an empty entry. -/
def IsListedBy (t : BindingTable) (entries : Json.Fields) : Prop :=
  ∀ component, entries.get? component = (t.get? component).map SubPath.writeOptional

/-- An object says what each component is bound to. -/
def SpelledBy (t : BindingTable) (v : Json) : Prop :=
  ∃ entries : Json.Fields, v = .obj entries ∧ t.IsListedBy entries

theorem isListedBy_ofList {l : List (String × Option String)} (hkeys : (l.map Prod.fst).Nodup) :
    IsListedBy (Sorted.Table.ofList l) (l.map member) := by
  intro component
  rw [get?_map_member, Sorted.Table.get?_ofList hkeys]

/-- A table is told by the members that list it. -/
theorem IsListedBy.unique {s t : BindingTable} {entries : Json.Fields} (hs : s.IsListedBy entries)
    (ht : t.IsListedBy entries) : s = t :=
  Sorted.Table.ext_get? fun component =>
    Option.map_injective SubPath.writeOptional_injective ((hs component).symm.trans (ht component))

theorem IsListedBy.exists_eq {t : BindingTable} {entries : Json.Fields} (h : t.IsListedBy entries)
    (hkeys : entries.keys.Nodup) : ∀ field ∈ entries, ∃ found, field.2 = SubPath.writeOptional found := by
  rintro ⟨component, w⟩ hmem
  have hget := (Json.Fields.mem_iff_get? hkeys).mp hmem
  obtain ⟨found, -, hw⟩ := Option.map_eq_some_iff.mp ((h component).symm.trans hget)
  exact ⟨found, hw.symm⟩

theorem exists_isListedBy {entries : Json.Fields} (hkeys : entries.keys.Nodup)
    (h : ∀ field ∈ entries, ∃ found, field.2 = SubPath.writeOptional found) :
    ∃ l : List (String × Option String), l.map member = entries ∧ IsListedBy (Sorted.Table.ofList l) entries := by
  obtain ⟨l, rfl⟩ := exists_map_member h
  exact ⟨l, rfl, isListedBy_ofList (keys_map_member l ▸ hkeys)⟩

/-- A table is read exactly from what spells it out. -/
theorem exists_textsByName_iff {t : BindingTable} (hkeys : v.WellKeyed) :
    (∃ l, textsByName v = .ok l ∧ Sorted.Table.ofList l = t) ↔ t.SpelledBy v := by
  constructor
  · rintro ⟨l, hl, rfl⟩
    obtain rfl := textsByName_eq_ok_iff.mp hl
    exact ⟨_, rfl, isListedBy_ofList (keys_map_member l ▸ (Json.wellKeyed_obj_iff.mp hkeys).1)⟩
  · rintro ⟨entries, rfl, ht⟩
    have hnodup : entries.keys.Nodup := (Json.wellKeyed_obj_iff.mp hkeys).1
    obtain ⟨l, rfl, hl⟩ := exists_isListedBy hnodup (ht.exists_eq hnodup)
    exact ⟨l, textsByName_eq_ok_iff.mpr rfl, hl.unique ht⟩

end BindingTable

/-! ## Sub-paths -/

namespace SubPath

/-- What the fields of a sub-path are. A side may be missing or `null`. -/
structure HasFields (s : SubPath) (fields : Json.Fields) : Prop where
  kind : fields.get? "type" = some (.str s.kind)
  localizedName : fields.get? "localized_name" = some (.str s.localizedName)
  side : fields.get? "side" = some (writeOptional s.side) ∨ fields.get? "side" = none ∧ s.side = none
  components : fields.get? "components" = some (.arr (s.components.map .str))
  bindings : ∃ w, fields.get? "monado_bindings" = some w ∧ s.bindings.SpelledBy w

/-- A member of an object spells out a sub-path: its key is the path, and its value gives the fields. -/
def SpelledBy (s : SubPath) (field : String × Json) : Prop :=
  s.path = field.1 ∧ ∃ fields,
    Gives ["type", "localized_name", "side", "components", "monado_bindings"] field.2 fields ∧
      s.HasFields fields

theorem HasFields.isReadable {s : SubPath} {fields : Json.Fields} (h : s.HasFields fields)
    (hkeys : ∀ field ∈ fields, field.2.WellKeyed) : ∀ field ∈ form.fields, IsReadable fields field := by
  obtain ⟨w, hget, hw⟩ := h.bindings
  obtain ⟨l, hl, -⟩ := (BindingTable.exists_textsByName_iff (hkeys _ (Json.Fields.mem_of_get? hget))).mpr hw
  have hside : IsReadable fields ("side", fun v => fault? (optionalText v)) := by
    rcases h.side with hside | ⟨hside, -⟩
    · exact isReadable_of_get? ⟨_, hside, optionalText_eq_ok_iff.mpr rfl⟩
    · exact isReadable_of_get?_none hside
  simp only [form, List.forall_mem_cons]
  exact ⟨isReadable_of_get? ⟨_, h.kind, rfl⟩, isReadable_of_get? ⟨_, h.localizedName, rfl⟩, hside,
    isReadable_of_get? ⟨_, h.components, texts_eq_ok_iff.mpr rfl⟩, isReadable_of_get? ⟨w, hget, hl⟩,
    List.forall_mem_nil _⟩

/-- A sub-path is read exactly from what spells it out. -/
theorem read_eq_ok_iff {s : SubPath} (hkeys : v.WellKeyed) : read key v = .ok s ↔ s.SpelledBy (key, v) := by
  have hspelled : s.SpelledBy (key, v) ↔
      ∃ fields, Gives form.names v fields ∧ s.path = key ∧ s.HasFields fields :=
    ⟨fun ⟨hpath, fields, hgives, h⟩ => ⟨fields, hgives, hpath, h⟩,
      fun ⟨fields, hgives, hpath, h⟩ => ⟨hpath, fields, hgives, h⟩⟩
  rw [hspelled]
  unfold read
  refine record_eq_ok_iff (fun fields => s.path = key ∧ s.HasFields fields) rfl (by decide) hkeys ?_
    (fun _ hfields h => h.2.isReadable hfields) rfl fun _ h => h.2.bindings.imp fun _ => And.left
  -- Each field is told by its value, but the table only by what its keys stand for.
  intro source hfields
  simp only [bind_eq_ok_iff, require_eq_ok_iff, optional_eq_ok_iff, text_eq_ok_iff, texts_eq_ok_iff,
    optionalText_eq_ok_iff]
  constructor
  · rintro ⟨kind, ⟨_, hkind, rfl⟩, localizedName, ⟨_, hname, rfl⟩, side, hside, components, ⟨_, hcomponents, rfl⟩,
      l, ⟨w, hget, hl⟩, hs⟩
    obtain rfl := Except.ok.inj hs
    have hw : w.WellKeyed := hfields _ (Json.Fields.mem_of_get? hget)
    refine ⟨rfl, hkind, hname, ?_, hcomponents, w, hget, ?_⟩
    · simpa using hside
    · exact (BindingTable.exists_textsByName_iff hw).mp ⟨l, hl, rfl⟩
  · rintro ⟨rfl, h⟩
    obtain ⟨w, hget, hw⟩ := h.bindings
    obtain ⟨l, hl, htable⟩ := (BindingTable.exists_textsByName_iff (hfields _ (Json.Fields.mem_of_get? hget))).mpr hw
    refine ⟨_, ⟨_, h.kind, rfl⟩, _, ⟨_, h.localizedName, rfl⟩, s.side, ?_, _, ⟨_, h.components, rfl⟩,
      l, ⟨w, hget, hl⟩, ?_⟩
    · simpa using h.side
    · rw [htable]
      rfl

/-- What is written for a sub-path spells it out again. -/
theorem spelledBy_write (s : SubPath) : s.SpelledBy (s.path, s.write) := by
  have hbindings : s.bindings.SpelledBy (.obj (s.bindings.entries.map BindingTable.member)) :=
    ⟨_, rfl, fun component => get?_map_member _ component⟩
  refine ⟨rfl, _, .named _, ?_⟩
  cases hside : s.side with
  | none => exact ⟨rfl, rfl, .inr ⟨rfl, hside⟩, rfl, _, rfl, hbindings⟩
  | some side => exact ⟨rfl, rfl, .inl (by rw [hside]; rfl), rfl, _, rfl, hbindings⟩

theorem wellKeyed_writeOptional (found : Option String) : (writeOptional found).WellKeyed := by
  cases found <;> trivial

/-- What is written for a sub-path has no key twice, and neither has the object of its bindings. -/
theorem wellKeyed_write (s : SubPath) : s.write.WellKeyed := by
  have hcomponents : Json.WellKeyed (.arr (s.components.map .str)) := by
    refine Json.itemsWellKeyed_iff.mpr fun v hv => ?_
    obtain ⟨name, -, rfl⟩ := List.mem_map.mp hv
    trivial
  have hbindings : Json.WellKeyed (.obj (s.bindings.entries.map BindingTable.member)) := by
    refine Json.wellKeyed_obj_iff.mpr ⟨keys_map_member _ ▸ s.bindings.nodup_keys, fun field hfield => ?_⟩
    obtain ⟨entry, -, rfl⟩ := List.mem_map.mp hfield
    exact wellKeyed_writeOptional entry.2
  have hall : form.names.Nodup := by decide
  have hothers : ["type", "localized_name", "components", "monado_bindings"].Nodup := by decide
  unfold write
  cases s.side with
  | none => exact ⟨hothers, trivial, trivial, hcomponents, hbindings, trivial⟩
  | some side => exact ⟨hall, trivial, trivial, trivial, hcomponents, hbindings, trivial⟩

/-- What is written for a sub-path is read as the sub-path, under the path that it is read for. -/
theorem read_write (s : SubPath) (path : String) : read path s.write = .ok { s with path } :=
  (read_eq_ok_iff s.wellKeyed_write).mpr (spelledBy_write { s with path })

end SubPath

/-! ## Profiles -/

namespace Profile

/-- What the fields of a profile are. -/
structure Entry.HasFields (entry : Entry) (fields : Json.Fields) : Prop where
  title : fields.get? "title" = some (.str entry.title)
  deviceType : fields.get? "type" = some (.str entry.deviceType)
  device : fields.get? "monado_device" = some (.str entry.device)
  subactionPaths : fields.get? "subaction_paths" = some (.arr (entry.subactionPaths.map .str))
  subPaths : fields.get? "subpaths" = some (.obj entry.subPaths)

/-- A value gives the fields of a profile. -/
def Entry.SpelledBy (entry : Entry) (v : Json) : Prop :=
  ∃ fields, Gives ["title", "type", "monado_device", "subaction_paths", "subpaths"] v fields ∧
    entry.HasFields fields

theorem Entry.read_eq_ok_iff {entry : Entry} (hkeys : v.WellKeyed) :
    Entry.read v = .ok entry ↔ entry.SpelledBy v := by
  unfold Entry.read
  refine record_eq_ok_iff entry.HasFields rfl (by decide) hkeys ?_ ?_ rfl fun _ h => ⟨_, h.subPaths⟩
  · intro source _
    simp only [bind_eq_ok_iff, require_eq_ok_iff, text_eq_ok_iff, texts_eq_ok_iff, members_eq_ok_iff]
    constructor
    · rintro ⟨title, ⟨_, htitle, rfl⟩, deviceType, ⟨_, htype, rfl⟩, device, ⟨_, hdevice, rfl⟩, subactionPaths,
        ⟨_, hpaths, rfl⟩, subPaths, ⟨_, hsubPaths, rfl⟩, hentry⟩
      obtain rfl := Except.ok.inj hentry
      exact ⟨htitle, htype, hdevice, hpaths, hsubPaths⟩
    · intro h
      exact ⟨_, ⟨_, h.title, rfl⟩, _, ⟨_, h.deviceType, rfl⟩, _, ⟨_, h.device, rfl⟩, _,
        ⟨_, h.subactionPaths, rfl⟩, _, ⟨_, h.subPaths, rfl⟩, rfl⟩
  · intro fields _ h
    simp only [form, List.forall_mem_cons]
    exact ⟨isReadable_of_get? ⟨_, h.title, rfl⟩, isReadable_of_get? ⟨_, h.deviceType, rfl⟩,
      isReadable_of_get? ⟨_, h.device, rfl⟩, isReadable_of_get? ⟨_, h.subactionPaths, texts_eq_ok_iff.mpr rfl⟩,
      isReadable_of_get? ⟨_, h.subPaths, rfl⟩, List.forall_mem_nil _⟩

/-- A member of an object spells out a profile: its key is the path, its value gives the fields, and each member
of what stands under the sub-paths spells out the sub-path in its place. -/
def SpelledBy (p : Profile) (field : String × Json) : Prop :=
  p.name.path = field.1 ∧ ∃ subPaths,
    Entry.SpelledBy ⟨p.title, p.deviceType, p.device, p.subactionPaths, subPaths⟩ field.2 ∧
      List.Forall₂ SubPath.SpelledBy p.subPaths subPaths

theorem Entry.SpelledBy.wellKeyed {entry : Entry} (h : entry.SpelledBy v) (hkeys : v.WellKeyed) :
    Json.WellKeyed (.obj entry.subPaths) := by
  obtain ⟨fields, hgives, hfields⟩ := h
  exact hgives.wellKeyed hkeys _ (Json.Fields.mem_of_get? hfields.subPaths)

/-- A profile is read exactly from what spells it out. -/
theorem read_eq_ok_iff {p : Profile} (hkeys : v.WellKeyed) : read key v = .ok p ↔ p.SpelledBy (key, v) := by
  have hsubPaths : ∀ {subPaths : Json.Fields} {found : List SubPath}, Json.WellKeyed (.obj subPaths) →
      ((subPaths.mapM fun field =>
        (SubPath.read field.1 field.2).mapError (Document.Error.invalidSubPath key field.1)) = .ok found ↔
          List.Forall₂ SubPath.SpelledBy found subPaths) := by
    intro subPaths found hsub
    refine mapM_eq_ok_iff_of_forall fun field hfield s => ?_
    rw [mapError_eq_ok_iff]
    exact SubPath.read_eq_ok_iff ((Json.wellKeyed_obj_iff.mp hsub).2 field hfield)
  unfold read
  simp only [bind_eq_ok_iff, mapError_eq_ok_iff, ProfileName.parse_eq_ok_iff, Entry.read_eq_ok_iff hkeys]
  constructor
  · rintro ⟨name, hname, entry, hentry, subPaths, hread, hp⟩
    obtain rfl := Except.ok.inj hp
    exact ⟨hname, entry.subPaths, hentry, (hsubPaths (hentry.wellKeyed hkeys)).mp hread⟩
  · rintro ⟨hname, subPaths, hentry, hall⟩
    exact ⟨p.name, hname, _, hentry, p.subPaths, (hsubPaths (hentry.wellKeyed hkeys)).mpr hall, rfl⟩

end Profile

/-- What has the names of its members, in their order, has the keys as names. -/
theorem map_eq_keys_of_forall₂ {α : Type} {f : α → String} {l : List α} {fields : Json.Fields}
    (h : List.Forall₂ (fun a field => f a = field.1) l fields) : l.map f = fields.keys := by
  rw [← List.forall₂_eq_eq_eq, Json.Fields.keys, List.forall₂_map_left_iff, List.forall₂_map_right_iff]
  exact h

/-! ## Documents -/

namespace Document

/-- A value lists profiles: it is an object that has an object of profiles. -/
def Lists (v : Json) (profiles : Json.Fields) : Prop :=
  ∃ fields : Json.Fields, v = .obj fields ∧ fields.get? "profiles" = some (.obj profiles)

theorem lists_iff {profiles : Json.Fields} :
    (v.get? "profiles").bind Json.fields? = some profiles ↔ Lists v profiles := by
  simp only [Option.bind_eq_some_iff]
  constructor
  · rintro ⟨w, hget, hw⟩
    cases v with
    | obj fields =>
      cases w with
      | obj members => exact ⟨fields, rfl, Option.some.inj hw ▸ hget⟩
      | _ => contradiction
    | _ => contradiction
  · rintro ⟨fields, rfl, hget⟩
    exact ⟨_, hget, rfl⟩

theorem Lists.wellKeyed {profiles : Json.Fields} (h : Lists v profiles) (hkeys : v.WellKeyed) :
    Json.WellKeyed (.obj profiles) := by
  obtain ⟨fields, rfl, hget⟩ := h
  exact (Json.wellKeyed_obj_iff.mp hkeys).2 _ (Json.Fields.mem_of_get? hget)

theorem Lists.read_eq {profiles : Json.Fields} (h : Lists v profiles) :
    read v = (profiles.mapM fun field => Profile.read field.1 field.2).map Document.mk := by
  rw [read, lists_iff.mpr h]

/-- A document is read exactly from what spells out its profiles. -/
theorem Lists.read_eq_ok_iff {profiles : Json.Fields} (h : Lists v profiles) (hkeys : v.WellKeyed) {d : Document} :
    read v = .ok d ↔ List.Forall₂ Profile.SpelledBy d.profiles profiles := by
  have hprofiles : ∀ field ∈ profiles, field.2.WellKeyed := (Json.wellKeyed_obj_iff.mp (h.wellKeyed hkeys)).2
  have hmapM : ∀ found : List Profile, (profiles.mapM fun field => Profile.read field.1 field.2) = .ok found ↔
      List.Forall₂ Profile.SpelledBy found profiles := fun _ =>
    mapM_eq_ok_iff_of_forall fun field hfield _ => Profile.read_eq_ok_iff (hprofiles field hfield)
  rw [h.read_eq, map_eq_ok_iff]
  simp only [hmapM]
  constructor
  · rintro ⟨found, hfound, rfl⟩
    exact hfound
  · exact fun hall => ⟨d.profiles, hall, rfl⟩

theorem exists_lists_of_read {d : Document} (h : read v = .ok d) : ∃ profiles, Lists v profiles := by
  unfold read at h
  split at h
  · contradiction
  · next profiles hprofiles => exact ⟨profiles, lists_iff.mp hprofiles⟩

/-- A value spells out a document: it lists what spells out the profiles. -/
def SpelledBy (d : Document) (v : Json) : Prop :=
  ∃ profiles, Lists v profiles ∧ List.Forall₂ Profile.SpelledBy d.profiles profiles

theorem read_eq_ok_iff {d : Document} (hkeys : v.WellKeyed) : read v = .ok d ↔ d.SpelledBy v := by
  constructor
  · intro h
    obtain ⟨profiles, hlists⟩ := exists_lists_of_read h
    exact ⟨profiles, hlists, (hlists.read_eq_ok_iff hkeys).mp h⟩
  · rintro ⟨profiles, hlists, hall⟩
    exact (hlists.read_eq_ok_iff hkeys).mpr hall

/-- No two profiles have one name, and no two sub-paths of a profile have one path. -/
structure Distinct (d : Document) : Prop where
  names : (d.profiles.map (·.name.path)).Nodup
  paths : ∀ p ∈ d.profiles, (p.subPaths.map SubPath.path).Nodup

/-- What stands under different keys has different names. -/
theorem distinct_of_read {d : Document} (hkeys : v.WellKeyed) (h : read v = .ok d) : d.Distinct := by
  obtain ⟨profiles, hlists⟩ := exists_lists_of_read h
  have hall := (hlists.read_eq_ok_iff hkeys).mp h
  obtain ⟨hnodup, hmembers⟩ := Json.wellKeyed_obj_iff.mp (hlists.wellKeyed hkeys)
  constructor
  · rw [map_eq_keys_of_forall₂ (hall.imp fun _ _ h => h.1)]
    exact hnodup
  · -- Each profile goes with its member, and the member is well-keyed.
    have hwell := ((List.forall₂_and_left _ _).mpr ⟨hmembers, hall.flip⟩).flip
    intro p hp
    obtain ⟨field, hfield, -, subPaths, hentry, hsubPaths⟩ := exists_forall₂_iff.mp ⟨_, hwell⟩ p hp
    rw [map_eq_keys_of_forall₂ (hsubPaths.imp fun _ _ h => h.1)]
    exact (Json.wellKeyed_obj_iff.mp (hentry.wellKeyed hfield)).1

end Document

end ProfileBindings
