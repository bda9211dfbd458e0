import ProfileBindings.Proofs.Profile.Reading
import ProfileBindings.Proofs.Schema.Grammar

/-!
# Documents that follow the grammar can be read

The grammar of documents and the typed reading of documents know nothing of each other. What follows the
grammar nevertheless spells out a model, and the model has everything that the grammar asks for.

* `SubPath.Shaped`, `Profile.Shaped` : what the grammar says of the model;
* `Profile.StandsUnder` : the names of a profile and of its sub-paths are the keys that it was read from.

Main statement: `read_of_isDocument`.
-/

namespace ProfileBindings

open Schema Decode

/-! ## Sub-paths -/

/-- A table of the grammar is a table of bindings, and the words in it are identifiers. -/
theorem BindingTable.exists_of_isTable {v : Json} (hkeys : v.WellKeyed)
    (h : IsTable (fun _ => True) IsBinding v) :
    ∃ t : BindingTable, t.SpelledBy v ∧
      ∀ component e, t.get? component = some (some e) → Text.isIdentifier e = true := by
  obtain ⟨entries, rfl, hentries⟩ := h
  have hnodup : (Json.Fields.keys entries).Nodup := (Json.wellKeyed_obj_iff.mp hkeys).1
  have hfound : ∀ field ∈ entries, ∃ found, field.2 = SubPath.writeOptional found := by
    intro field hfield
    rcases (hentries field hfield).2 with hnull | ⟨s, hs, -⟩
    · exact ⟨none, hnull⟩
    · exact ⟨some s, hs⟩
  obtain ⟨l, -, ht⟩ := exists_isListedBy hnodup hfound
  refine ⟨_, ⟨entries, rfl, ht⟩, fun component e he => ?_⟩
  have hget : Json.Fields.get? component entries = some (.str e) := by rw [ht, he]; rfl
  rcases (hentries _ (Json.Fields.mem_of_get? hget)).2 with hnull | ⟨s, hs, hidentifier⟩
  · cases hnull
  · rwa [Json.str.inj hs]

/-- What the grammar says of a sub-path. -/
structure SubPath.Shaped (s : SubPath) : Prop where
  path : IsSubPathPath s.path
  kind : s.kind ≠ ""
  localizedName : s.localizedName ≠ ""
  side : ∀ side, s.side = some side → side ≠ ""
  components : s.components ≠ []
  names : ∀ name ∈ s.components, IsRun isSmallWordChar name
  nodup : s.components.Nodup
  identifiers : ∀ name e, s.binding name = .bound e → Text.isIdentifier e = true

/-- What follows the grammar of sub-paths spells out a sub-path. -/
theorem SubPath.exists_spelledBy {path : String} {fields : Json.Fields} (hpath : IsSubPathPath path)
    (hkeys : Json.WellKeyed (.obj fields)) (h : SubPathGrammar fields) :
    ∃ s : SubPath, s.SpelledBy (path, .obj fields) ∧ s.Shaped := by
  obtain ⟨_, hkind, kind, rfl, hkindSome⟩ := h.kind
  obtain ⟨_, hname, localizedName, rfl, hnameSome⟩ := h.localizedName
  obtain ⟨_, hcomponents, ⟨components, rfl, hnodup, hnames⟩, hsome⟩ := h.components
  obtain ⟨w, hbindings, htable⟩ := h.bindings
  have hw : w.WellKeyed := (Json.wellKeyed_obj_iff.mp hkeys).2 _ (Json.Fields.mem_of_get? hbindings)
  obtain ⟨bindings, hspelled, hidentifiers⟩ := BindingTable.exists_of_isTable hw htable
  have hside : ∃ side, (fields.get? "side" = some (writeOptional side) ∨ fields.get? "side" = none ∧ side = none) ∧
      ∀ s, side = some s → s ≠ "" := by
    cases hget : fields.get? "side" with
    | none => exact ⟨none, .inr ⟨rfl, rfl⟩, by simp⟩
    | some u =>
      obtain ⟨side, rfl, hne⟩ := h.side u hget
      exact ⟨some side, .inl rfl, by simpa using hne⟩
  obtain ⟨side, hside, hsideSome⟩ := hside
  refine ⟨⟨path, kind, localizedName, side, components, bindings⟩,
    ⟨rfl, fields, .named _, hkind, hname, hside, hcomponents, w, hbindings, hspelled⟩,
    ⟨hpath, hkindSome, hnameSome, hsideSome, ?_, hnames, hnodup, ?_⟩⟩
  · rintro rfl
    exact hsome rfl
  · intro name e hbound
    rw [binding] at hbound
    split at hbound
    · contradiction
    · contradiction
    · next found hget =>
      obtain rfl := Binding.bound.inj hbound
      exact hidentifiers _ _ hget

/-! ## Profiles -/

/-- What the grammar says of a profile. -/
structure Profile.Shaped (p : Profile) : Prop where
  title : p.title ≠ ""
  deviceType : p.deviceType ≠ ""
  device : Text.isIdentifier p.device = true
  subactionPaths : ∀ path ∈ p.subactionPaths, IsSubactionPath path
  nodup : p.subactionPaths.Nodup
  subPaths : ∀ s ∈ p.subPaths, s.Shaped
  /-- No two sub-paths have one path. -/
  paths : (p.subPaths.map SubPath.path).Nodup

/-- A profile has the name that it stands under, and its sub-paths have the names that they stand under, in
their order. -/
def Profile.StandsUnder (p : Profile) (field : String × Json) : Prop :=
  p.name.path = field.1 ∧ ∃ subPaths, field.2.get? "subpaths" = some (.obj subPaths) ∧
    p.subPaths.map SubPath.path = Json.Fields.keys subPaths

theorem ProfileName.exists_of_isProfilePath {s : String} (h : IsProfilePath s) :
    ∃ name : ProfileName, name.path = s := by
  obtain ⟨segments, htwo, hruns, rfl⟩ := h
  have hwords : ∀ t ∈ segments, Text.isWordRun t.toList = true := by
    intro t ht
    obtain ⟨hne, hall⟩ := hruns t ht
    simpa [Text.isWordRun, hne] using hall
  exact ⟨⟨segments, htwo, hwords⟩, rfl⟩

/-- What follows the grammar of profiles spells out a profile. -/
theorem Profile.exists_spelledBy {path : String} {fields : Json.Fields} (hpath : IsProfilePath path)
    (hkeys : Json.WellKeyed (.obj fields)) (h : ProfileGrammar fields) :
    ∃ p : Profile, p.SpelledBy (path, .obj fields) ∧ p.Shaped ∧ p.StandsUnder (path, .obj fields) := by
  obtain ⟨name, rfl⟩ := ProfileName.exists_of_isProfilePath hpath
  obtain ⟨_, htitle, title, rfl, htitleSome⟩ := h.title
  obtain ⟨_, htype, deviceType, rfl, htypeSome⟩ := h.deviceType
  obtain ⟨_, hdevice, device, rfl, hidentifier⟩ := h.device
  obtain ⟨_, hpaths, paths, rfl, hpathsNodup, hpathsKind⟩ := h.subactionPaths
  obtain ⟨_, hget, subPaths, rfl, hgrammar⟩ := h.subPaths
  obtain ⟨hsubKeys, hsubMembers⟩ :=
    Json.wellKeyed_obj_iff.mp ((Json.wellKeyed_obj_iff.mp hkeys).2 _ (Json.Fields.mem_of_get? hget))
  have hstep : ∀ field ∈ subPaths, ∃ s : SubPath, s.Shaped ∧ s.SpelledBy field := by
    rintro ⟨key, value⟩ hfield
    obtain ⟨hkey, inner, rfl, hinner⟩ := hgrammar _ hfield
    obtain ⟨s, hspelled, hshaped⟩ := SubPath.exists_spelledBy hkey (hsubMembers _ hfield) hinner
    exact ⟨s, hshaped, hspelled⟩
  obtain ⟨found, hall⟩ := exists_forall₂_iff.mpr hstep
  obtain ⟨hshaped, hspelled⟩ := (List.forall₂_and_left _ _).mp hall.flip
  have hpathKeys : found.map SubPath.path = Json.Fields.keys subPaths :=
    map_eq_keys_of_forall₂ (hspelled.imp fun _ _ h => h.1)
  exact ⟨⟨name, title, deviceType, device, paths, found⟩,
    ⟨rfl, subPaths, ⟨fields, .named _, htitle, htype, hdevice, hpaths, hget⟩, hspelled⟩,
    ⟨htitleSome, htypeSome, hidentifier, hpathsKind, hpathsNodup, hshaped, by rw [hpathKeys]; exact hsubKeys⟩,
    rfl, subPaths, hget, hpathKeys⟩

/-! ## Documents -/

/-- A document of the grammar can be read, and its profiles are those that it lists. -/
theorem Document.read_of_isDocument {v : Json} (hkeys : v.WellKeyed) (h : IsDocument v) :
    ∃ d profiles, Document.read v = .ok d ∧ v.get? "profiles" = some (.obj profiles) ∧ profiles ≠ [] ∧
      (∀ p ∈ d.profiles, p.Shaped) ∧ List.Forall₂ Profile.StandsUnder d.profiles profiles := by
  obtain ⟨fields, rfl, _, hget, ⟨profiles, rfl, hgrammar⟩, hsome⟩ := h
  have hlists : Lists (.obj fields) profiles := ⟨fields, rfl, hget⟩
  have hmembers : ∀ field ∈ profiles, field.2.WellKeyed := (Json.wellKeyed_obj_iff.mp (hlists.wellKeyed hkeys)).2
  have hstep : ∀ field ∈ profiles, ∃ p : Profile, p.Shaped ∧ p.SpelledBy field ∧ p.StandsUnder field := by
    rintro ⟨key, value⟩ hfield
    obtain ⟨hkey, inner, rfl, hinner⟩ := hgrammar _ hfield
    obtain ⟨p, hspelled, hshaped, hstands⟩ := Profile.exists_spelledBy hkey (hmembers _ hfield) hinner
    exact ⟨p, hshaped, hspelled, hstands⟩
  obtain ⟨found, hall⟩ := exists_forall₂_iff.mpr hstep
  obtain ⟨hshaped, hall⟩ := (List.forall₂_and_left _ _).mp hall.flip
  refine ⟨⟨found⟩, profiles, (hlists.read_eq_ok_iff hkeys).mpr (hall.imp fun _ _ h => h.1), hget, ?_, hshaped,
    hall.imp fun _ _ h => h.2⟩
  rintro rfl
  exact hsome rfl

end ProfileBindings
