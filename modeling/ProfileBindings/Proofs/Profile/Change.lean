import ProfileBindings.Proofs.Decode.Change
import ProfileBindings.Proofs.Profile.Reading

/-!
# Documents whose members have changed

What a document is read as depends on the members that it knows, and on the order of profiles and of
sub-paths. Members that it does not know make no difference, nor does the order in which the fields of a
profile, the fields of a sub-path or the bindings are written. An order may decide which of several faults
comes first, so that with another order only the documents that can be read are the same.

* `SubPath.AtBindings`, `Profile.AtSubPath`, `Document.AtProfile` : where a change has taken place;
* `Document.Widens` : a member has come in that the document does not know;
* `Document.Reorders` : fields or bindings have changed places.

Main statements: `Document.read_ignores_widens` and `Document.ignores_reorders`.
-/

namespace ProfileBindings

open Json Decode

variable {R : Json → Json → Prop} {v w : Json} {key : String}

/-! ## Where a change takes place -/

/-- The bindings of a sub-path have changed. -/
def SubPath.AtBindings (R : Json → Json → Prop) : Json → Json → Prop :=
  AtField ["type", "localized_name", "side", "components", "monado_bindings"] "monado_bindings" R

/-- The value of one sub-path of a profile has changed. -/
def Profile.AtSubPath (R : Json → Json → Prop) : Json → Json → Prop :=
  AtField ["title", "type", "monado_device", "subaction_paths", "subpaths"] "subpaths"
    (InObject (Fields.AtAny R))

/-- The value of one profile of a document has changed. -/
def Document.AtProfile (R : Json → Json → Prop) : Json → Json → Prop :=
  InObject (Fields.At "profiles" (InObject (Fields.AtAny R)))

/-- A member has come in whose name is not known where it stands. -/
inductive Document.Widens (v w : Json) : Prop where
  | root (h : InObject (Fields.Inserts ["profiles"]) v w)
  | profile (h : AtProfile (InObject (Fields.Inserts
      ["title", "type", "monado_device", "subaction_paths", "subpaths"])) v w)
  | subPath (h : AtProfile (Profile.AtSubPath (InObject (Fields.Inserts
      ["type", "localized_name", "side", "components", "monado_bindings"]))) v w)

/-- The fields of a profile, the fields of a sub-path or the bindings of one have changed places. -/
inductive Document.Reorders (v w : Json) : Prop where
  | profile (h : AtProfile (InObject Fields.Permutes) v w)
  | subPath (h : AtProfile (Profile.AtSubPath (InObject Fields.Permutes)) v w)
  | bindings (h : AtProfile (Profile.AtSubPath (SubPath.AtBindings (InObject Fields.Permutes))) v w)

instance [Std.Symm R] : Std.Symm (SubPath.AtBindings R) := inferInstanceAs (Std.Symm (AtField _ _ _))

instance [Std.Symm R] : Std.Symm (Profile.AtSubPath R) := inferInstanceAs (Std.Symm (AtField _ _ _))

instance [Std.Symm R] : Std.Symm (Document.AtProfile R) := inferInstanceAs (Std.Symm (InObject _))

instance : Std.Symm Document.Reorders where
  symm v w h := by
    cases h with
    | profile h => exact .profile (Std.Symm.symm _ _ h)
    | subPath h => exact .subPath (Std.Symm.symm _ _ h)
    | bindings h => exact .bindings (Std.Symm.symm _ _ h)

theorem Profile.AtSubPath.keeps_wellKeyed (hR : Keeps WellKeyed R) : Keeps WellKeyed (AtSubPath R) :=
  AtField.keeps_wellKeyed (Fields.AtAny.keeps_wellKeyed hR)

theorem Document.AtProfile.keeps_wellKeyed (hR : Keeps WellKeyed R) : Keeps WellKeyed (AtProfile R) :=
  Fields.At.keeps_wellKeyed (Fields.AtAny.keeps_wellKeyed hR) _

theorem Document.Reorders.keeps_wellKeyed : Keeps WellKeyed Reorders := by
  have hobject : Keeps WellKeyed (InObject Fields.Permutes) := Fields.Permutes.keeps_wellKeyed
  intro v w h
  cases h with
  | profile h => exact AtProfile.keeps_wellKeyed hobject h
  | subPath h => exact AtProfile.keeps_wellKeyed (Profile.AtSubPath.keeps_wellKeyed hobject) h
  | bindings h =>
    exact AtProfile.keeps_wellKeyed (Profile.AtSubPath.keeps_wellKeyed (AtField.keeps_wellKeyed hobject)) h

/-! ## Unknown members -/

namespace SubPath

theorem read_ignores_inserts (path : String) : Ignores (read path) (InObject (Fields.Inserts form.names)) := by
  intro v w h
  unfold read
  refine (alike_of_inserts rfl h).bind_eq fun s t hst => ?_
  have hget : ∀ name ∈ form.names, t.fields.get? name = s.fields.get? name := fun _ => hst.of_fields.get?_eq
  simp only [hst.require_eq (hget "type" (by decide)), hst.require_eq (hget "localized_name" (by decide)),
    Source.optional_congr (hget "side" (by decide)), hst.require_eq (hget "components" (by decide)),
    hst.require_eq (hget "monado_bindings" (by decide))]

end SubPath

namespace Profile

theorem Entry.read_ignores_inserts : Ignores Entry.read (InObject (Fields.Inserts form.names)) := by
  intro v w h
  unfold Entry.read
  refine (alike_of_inserts rfl h).bind_eq fun s t hst => ?_
  have hget : ∀ name ∈ form.names, t.fields.get? name = s.fields.get? name := fun _ => hst.of_fields.get?_eq
  simp only [hst.require_eq (hget "title" (by decide)), hst.require_eq (hget "type" (by decide)),
    hst.require_eq (hget "monado_device" (by decide)), hst.require_eq (hget "subaction_paths" (by decide)),
    hst.require_eq (hget "subpaths" (by decide))]

theorem read_ignores_inserts (path : String) : Ignores (read path) (InObject (Fields.Inserts form.names)) := by
  intro v w h
  unfold read
  rw [Entry.read_ignores_inserts h]

/-- The entries differ at most in the value of one sub-path. -/
def Entry.Changes (R : Json → Json → Prop) (entry entry' : Entry) : Prop :=
  ∃ subPaths, entry' = { entry with subPaths } ∧
    (subPaths = entry.subPaths ∨ Fields.AtAny R entry.subPaths subPaths)

theorem Entry.alike_of_atSubPath (h : AtSubPath R v w) :
    Alike (Entry.Changes R) (Entry.read v) (Entry.read w) := by
  have hsource : Alike (Source.Changes (Fields.At "subpaths" (InObject (Fields.AtAny R)))) (form.source v)
      (form.source w) := AtField.alike (fun _ _ ⟨_⟩ => rfl) h
  unfold Entry.read
  refine hsource.bind fun s t hst => ?_
  have hget : ∀ {name}, name ≠ "subpaths" → t.fields.get? name = s.fields.get? name := hst.of_fields.get?_of_ne
  have hsubPaths : Alike (fun subPaths subPaths' => subPaths' = subPaths ∨ Fields.AtAny R subPaths subPaths')
      (s.require "subpaths" members) (t.require "subpaths" members) :=
    hst.alike_require (fun _ => .inl rfl) fun _ _ ⟨hany⟩ => .ok (.inr hany)
  -- The other fields are the same.
  rw [hst.require_eq (hget (by decide)), hst.require_eq (hget (by decide)), hst.require_eq (hget (by decide)),
    hst.require_eq (hget (by decide))]
  refine .bind_same _ fun title => .bind_same _ fun deviceType => .bind_same _ fun device => ?_
  exact .bind_same _ fun subactionPaths => hsubPaths.bind fun _ subPaths' hchange => .ok ⟨subPaths', rfl, hchange⟩

/-- A profile is read as before if its sub-paths are. -/
theorem read_ignores_atSubPath (hR : ∀ path, Ignores (SubPath.read path) R) (path : String) :
    Ignores (read path) (AtSubPath R) := by
  intro v w h
  unfold read
  refine (Alike.refl (fun _ => rfl) _).bind_eq ?_
  rintro name _ rfl
  refine ((Entry.alike_of_atSubPath h).mapError _).bind_eq ?_
  rintro entry _ ⟨subPaths, rfl, rfl | ⟨key, hat⟩⟩
  · rfl
  · simp only
    rw [hat.mapM_eq fun v w hvw => by rw [hR key hvw]]

end Profile

namespace Document

/-- A document is read as before if its profiles are. -/
theorem read_ignores_atProfile (hR : ∀ path, Ignores (Profile.read path) R) : Ignores read (AtProfile R) := by
  rintro _ _ ⟨h⟩
  unfold read
  simp only [Json.get?]
  rcases h.get?_eq_or with heq | ⟨_, _, hv, hw, ⟨key, hat⟩⟩
  · rw [heq]
  · rw [hv, hw]
    simp only [Option.bind_some, fields?]
    rw [hat.mapM_eq fun v w hvw => hR key hvw]

theorem read_ignores_inserts : Ignores read (InObject (Fields.Inserts ["profiles"])) := by
  rintro _ _ ⟨h⟩
  unfold read
  simp only [Json.get?, h.get?_eq (List.mem_singleton_self _)]

/-- A member that is not known does not change what a document is read as, nor the error. -/
theorem read_ignores_widens : Ignores read Widens := by
  intro v w h
  cases h with
  | root h => exact read_ignores_inserts h
  | profile h => exact read_ignores_atProfile Profile.read_ignores_inserts h
  | subPath h =>
    exact read_ignores_atProfile (Profile.read_ignores_atSubPath SubPath.read_ignores_inserts) h

end Document

/-! ## Order -/

theorem BindingTable.keeps_permutes (t : BindingTable) : Keeps t.SpelledBy (InObject Fields.Permutes) := by
  rintro _ _ ⟨hperm⟩ ⟨entries, hentries, hlisted⟩
  obtain rfl := Json.obj.inj hentries
  exact ⟨_, rfl, fun component => (hperm.get?_eq component).trans (hlisted component)⟩

namespace SubPath

variable {s : SubPath} {fields fields' : Fields}

theorem HasFields.of_get?_eq (h : s.HasFields fields)
    (hget : ∀ name, fields'.get? name = fields.get? name) : s.HasFields fields' where
  kind := (hget _).trans h.kind
  localizedName := (hget _).trans h.localizedName
  side := by rw [hget]; exact h.side
  components := (hget _).trans h.components
  bindings := by rw [hget]; exact h.bindings

theorem keeps_permutes (s : SubPath) (key : String) :
    Keeps (fun v => s.SpelledBy (key, v)) (InObject Fields.Permutes) := by
  rintro _ _ ⟨hperm⟩ ⟨hpath, fields, hgives, hfields⟩
  obtain rfl := gives_obj_iff.mp hgives
  exact ⟨hpath, _, .named _, hfields.of_get?_eq hperm.get?_eq⟩

/-- Where a sub-path keeps its bindings it keeps all of its fields. -/
theorem keeps_atBindings (hR : ∀ t : BindingTable, Keeps t.SpelledBy R) (s : SubPath) (key : String) :
    Keeps (fun v => s.SpelledBy (key, v)) (AtBindings R) := by
  rintro v w h ⟨hpath, fields, hgives, hfields⟩
  obtain ⟨fields', hgives', hat⟩ := AtField.gives h hgives
  have hget : ∀ {name}, name ≠ "monado_bindings" → fields'.get? name = fields.get? name := hat.get?_of_ne
  refine ⟨hpath, fields', hgives', (hget (by decide)).trans hfields.kind,
    (hget (by decide)).trans hfields.localizedName, ?_, (hget (by decide)).trans hfields.components, ?_⟩
  · rw [hget (by decide)]
    exact hfields.side
  · obtain ⟨bindings, hbindings, hspelled⟩ := hfields.bindings
    rcases hat.get?_eq_or with hsame | ⟨v, w, hv, hw, hvw⟩
    · exact ⟨bindings, hsame.trans hbindings, hspelled⟩
    · obtain rfl := Option.some.inj (hv.symm.trans hbindings)
      exact ⟨w, hw, hR _ hvw hspelled⟩

end SubPath

namespace Profile

theorem Entry.HasFields.of_get?_eq {entry : Entry} {fields fields' : Fields} (h : entry.HasFields fields)
    (hget : ∀ name, fields'.get? name = fields.get? name) : entry.HasFields fields' where
  title := (hget _).trans h.title
  deviceType := (hget _).trans h.deviceType
  device := (hget _).trans h.device
  subactionPaths := (hget _).trans h.subactionPaths
  subPaths := (hget _).trans h.subPaths

theorem keeps_permutes (p : Profile) (key : String) :
    Keeps (fun v => p.SpelledBy (key, v)) (InObject Fields.Permutes) := by
  rintro _ _ ⟨hperm⟩ ⟨hname, subPaths, ⟨fields, hgives, hfields⟩, hall⟩
  obtain rfl := gives_obj_iff.mp hgives
  exact ⟨hname, subPaths, ⟨_, .named _, hfields.of_get?_eq hperm.get?_eq⟩, hall⟩

/-- Where a profile keeps its sub-paths it keeps all of its fields. -/
theorem keeps_atSubPath (hR : ∀ (s : SubPath) (path : String), Keeps (fun v => s.SpelledBy (path, v)) R)
    (p : Profile) (key : String) : Keeps (fun v => p.SpelledBy (key, v)) (AtSubPath R) := by
  rintro v w h ⟨hname, subPaths, ⟨fields, hgives, hfields⟩, hall⟩
  obtain ⟨fields', hgives', hat⟩ := AtField.gives h hgives
  have hget : ∀ {name}, name ≠ "subpaths" → fields'.get? name = fields.get? name := hat.get?_of_ne
  have hkeep : ∀ {subPaths'}, fields'.get? "subpaths" = some (.obj subPaths') →
      Entry.SpelledBy ⟨p.title, p.deviceType, p.device, p.subactionPaths, subPaths'⟩ w := fun hsub =>
    ⟨fields', hgives', (hget (by decide)).trans hfields.title, (hget (by decide)).trans hfields.deviceType,
      (hget (by decide)).trans hfields.device, (hget (by decide)).trans hfields.subactionPaths, hsub⟩
  rcases hat.get?_eq_or with hsame | ⟨_, _, hv, hw, ⟨path, hat'⟩⟩
  · exact ⟨hname, subPaths, hkeep (hsame.trans hfields.subPaths), hall⟩
  · obtain rfl := Json.obj.inj (Option.some.inj (hv.symm.trans hfields.subPaths))
    exact ⟨hname, _, hkeep hw, hat'.forall₂ (fun s v w hvw => hR s path hvw) hall⟩

end Profile

namespace Document

theorem keeps_atProfile (hR : ∀ (p : Profile) (key : String), Keeps (fun v => p.SpelledBy (key, v)) R)
    (d : Document) : Keeps d.SpelledBy (AtProfile R) := by
  rintro _ _ ⟨h⟩ ⟨profiles, ⟨fields, hobject, hprofiles⟩, hall⟩
  obtain rfl := Json.obj.inj hobject
  rcases h.get?_eq_or with hsame | ⟨_, _, hv, hw, ⟨key, hat⟩⟩
  · exact ⟨profiles, ⟨_, rfl, hsame.trans hprofiles⟩, hall⟩
  · obtain rfl := Json.obj.inj (Option.some.inj (hv.symm.trans hprofiles))
    exact ⟨_, ⟨_, rfl, hw⟩, hat.forall₂ (fun p v w hvw => hR p key hvw) hall⟩

/-- The order of fields and of bindings makes no difference to what a value spells out. -/
theorem ignores_reorders (d : Document) : Ignores d.SpelledBy Reorders := by
  refine Keeps.ignores fun v w h => ?_
  cases h with
  | profile h => exact keeps_atProfile Profile.keeps_permutes d h
  | subPath h => exact keeps_atProfile (Profile.keeps_atSubPath SubPath.keeps_permutes) d h
  | bindings h =>
    exact keeps_atProfile (Profile.keeps_atSubPath (SubPath.keeps_atBindings BindingTable.keeps_permutes)) d h

end Document

end ProfileBindings
