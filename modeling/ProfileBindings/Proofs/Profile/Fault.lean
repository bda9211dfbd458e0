import ProfileBindings.Proofs.Schema.Model

/-!
# Which fault of a document is reported

Reading stops at the first profile that has a fault. In a profile the name is looked at first, then the fields,
then the sub-paths in their order, so that of several faults exactly one is to blame.

* `Profile.IsGood` : a member of an object can be read as a profile;
* `Profile.Blames` : what a profile is refused for, one rule for each kind of fault.

Main statements:
* `Profile.read_eq_error_iff` : a profile is refused for exactly what is to blame;
* `Document.read_accepts_or_blames` : which values are documents, which document each of them is, and what the
  others are refused for.
-/

namespace ProfileBindings

variable {v : Json} {key : String}

/-! ## Profiles -/

namespace Profile

/-- A member of an object can be read as a profile: its key is a path, its value gives the fields, and what
stands under the sub-paths spells out sub-paths. -/
def IsGood (field : String × Json) : Prop :=
  (∃ name, ProfileName.parse field.1 = .ok name) ∧ ∃ entry : Entry, entry.SpelledBy field.2 ∧
    ∀ sub ∈ entry.subPaths, ∃ s : SubPath, s.SpelledBy sub

/-- What is to blame for a profile that cannot be read. -/
inductive Blames : String × Json → Document.Error → Prop where
  | name {key : String} {v : Json} {reason : ProfileName.Fault} (hname : ProfileName.parse key = .error reason) :
    Blames (key, v) (.invalidName key reason)
  | fields {key : String} {v : Json} {name : ProfileName} {reason : Decode.Fault}
      (hname : ProfileName.parse key = .ok name) (hfields : ¬∃ entry : Entry, entry.SpelledBy v)
      (hreason : Entry.read v = .error reason) :
    Blames (key, v) (.invalidProfile key reason)
  /-- The first sub-path with a fault is reported. -/
  | subPath {key path : String} {v w : Json} {name : ProfileName} {entry : Entry} {before after : Json.Fields}
      {reason : Decode.Fault} (hname : ProfileName.parse key = .ok name) (hentry : entry.SpelledBy v)
      (hsubPaths : entry.subPaths = before ++ (path, w) :: after)
      (hbefore : ∀ sub ∈ before, ∃ s : SubPath, s.SpelledBy sub) (hbad : ¬∃ s : SubPath, s.SpelledBy (path, w))
      (hreason : SubPath.read path w = .error reason) :
    Blames (key, v) (.invalidSubPath key path reason)

theorem isGood_iff {field : String × Json} : IsGood field ↔ ∃ p : Profile, p.SpelledBy field := by
  constructor
  · rintro ⟨⟨name, hname⟩, entry, hentry, hsubPaths⟩
    obtain ⟨found, hall⟩ := exists_forall₂_iff.mpr hsubPaths
    exact ⟨⟨name, entry.title, entry.deviceType, entry.device, entry.subactionPaths, found⟩,
      ProfileName.parse_eq_ok_iff.mp hname, entry.subPaths, hentry, hall.flip⟩
  · rintro ⟨p, hname, subPaths, hentry, hall⟩
    exact ⟨⟨p.name, ProfileName.parse_eq_ok_iff.mpr hname⟩, _, hentry, exists_forall₂_iff.mp ⟨_, hall.flip⟩⟩

/-- A profile is refused for exactly what is to blame. -/
theorem read_eq_error_iff {e : Document.Error} (hkeys : v.WellKeyed) : read key v = .error e ↔ Blames (key, v) e := by
  have hsubPath : ∀ {entry : Entry}, entry.SpelledBy v → ∀ sub ∈ entry.subPaths, ∀ s,
      SubPath.read sub.1 sub.2 = .ok s ↔ s.SpelledBy sub := by
    intro entry hentry sub hsub s
    exact SubPath.read_eq_ok_iff ((Json.wellKeyed_obj_iff.mp (hentry.wellKeyed hkeys)).2 sub hsub)
  unfold read
  simp only [bind_eq_error_iff, mapError_eq_error_iff, mapError_eq_ok_iff, mapM_eq_error_iff,
    Entry.read_eq_ok_iff hkeys]
  constructor
  · -- In the order in which they are looked at: the name, the fields, the sub-paths.
    rintro (⟨reason, hname, rfl⟩ | ⟨name, hname, ⟨reason, hreason, rfl⟩ | ⟨entry, hentry, hrest⟩⟩)
    · exact .name hname
    · refine .fields hname ?_ hreason
      rintro ⟨entry, hentry⟩
      rw [(Entry.read_eq_ok_iff hkeys).mpr hentry] at hreason
      contradiction
    · rcases hrest with ⟨before, ⟨path, w⟩, after, hsubPaths, hbefore, reason, hreason, rfl⟩ | ⟨_, -, hpure⟩
      · refine .subPath hname hentry hsubPaths (fun sub hsub => ?_) ?_ hreason
        · obtain ⟨s, hs⟩ := hbefore sub hsub
          exact ⟨s, (hsubPath hentry sub (by simp [hsubPaths, hsub]) s).mp hs⟩
        · rintro ⟨s, hs⟩
          rw [(hsubPath hentry (path, w) (by simp [hsubPaths]) s).mpr hs] at hreason
          contradiction
      · -- With the sub-paths read, nothing is left that could fail.
        contradiction
  · intro h
    cases h with
    | name hname => exact .inl ⟨_, hname, rfl⟩
    | fields hname _ hreason => exact .inr ⟨_, hname, .inl ⟨_, hreason, rfl⟩⟩
    | subPath hname hentry hsubPaths hbefore _ hreason =>
      refine .inr ⟨_, hname, .inr ⟨_, hentry, .inl ⟨_, _, _, hsubPaths, fun sub hsub => ?_, _, hreason, rfl⟩⟩⟩
      obtain ⟨s, hs⟩ := hbefore sub hsub
      exact ⟨s, (hsubPath hentry sub (by simp [hsubPaths, hsub]) s).mpr hs⟩

end Profile

/-! ## Documents -/

namespace Document

theorem Lists.read_eq_error_iff {profiles : Json.Fields} (h : Lists v profiles) (hkeys : v.WellKeyed) {e : Error} :
    read v = .error e ↔ ∃ before field after, profiles = before ++ field :: after ∧
      (∀ good ∈ before, Profile.IsGood good) ∧ Profile.Blames field e := by
  have hprofiles : ∀ field ∈ profiles, field.2.WellKeyed := (Json.wellKeyed_obj_iff.mp (h.wellKeyed hkeys)).2
  rw [h.read_eq, map_eq_error_iff, mapM_eq_error_iff]
  refine exists_congr fun before => exists_congr fun field => exists_congr fun after => ?_
  refine and_congr_right fun hsplit => and_congr (forall₂_congr fun good hgood => ?_) ?_
  · rw [Profile.isGood_iff]
    exact exists_congr fun p => Profile.read_eq_ok_iff (hprofiles good (by simp [hsplit, hgood]))
  · exact Profile.read_eq_error_iff (hprofiles field (by simp [hsplit]))

/-- A value that lists no profiles is refused, and for nothing else. -/
theorem read_eq_missingProfiles_iff (hkeys : v.WellKeyed) :
    read v = .error .missingProfiles ↔ ¬∃ profiles, Lists v profiles := by
  constructor
  · rintro h ⟨profiles, hlists⟩
    obtain ⟨_, _, _, _, _, hblames⟩ := (hlists.read_eq_error_iff hkeys).mp h
    cases hblames
  · intro h
    have hnone : (v.get? "profiles").bind Json.fields? = none := by
      refine Option.eq_none_iff_forall_ne_some.mpr fun profiles hsome => h ⟨profiles, lists_iff.mp hsome⟩
    rw [read, hnone]

/-- A document is accepted exactly if all its entries are good, and is then spelt out by them in their order.
Otherwise it is refused for the first fault of the first entry that is not good. -/
theorem read_accepts_or_blames {v : Json} (hkeys : v.WellKeyed) :
    (read v = .error .missingProfiles ↔ ¬∃ profiles, Lists v profiles) ∧
    ∀ profiles, Lists v profiles →
      ((∃ d, read v = .ok d) ↔ ∀ field ∈ profiles, Profile.IsGood field) ∧
      (∀ d, read v = .ok d ↔ List.Forall₂ Profile.SpelledBy d.profiles profiles) ∧
      ∀ e, read v = .error e ↔ ∃ before field after, profiles = before ++ field :: after ∧
        (∀ good ∈ before, Profile.IsGood good) ∧ Profile.Blames field e := by
  refine ⟨read_eq_missingProfiles_iff hkeys, fun profiles hlists => ⟨?_, fun d => hlists.read_eq_ok_iff hkeys,
    fun e => hlists.read_eq_error_iff hkeys⟩⟩
  simp only [hlists.read_eq_ok_iff hkeys, Profile.isGood_iff, ← exists_forall₂_iff]
  constructor
  · rintro ⟨d, hall⟩
    exact ⟨d.profiles, hall.flip⟩
  · rintro ⟨found, hall⟩
    exact ⟨⟨found⟩, hall.flip⟩

theorem read_simpleValue :
    simpleValue.WellKeyed ∧ ∃ profiles d, Lists simpleValue profiles ∧ read simpleValue = .ok d ∧
      (∀ field ∈ profiles, Profile.IsGood field) ∧ List.Forall₂ Profile.SpelledBy d.profiles profiles := by
  obtain ⟨-, haccepts⟩ := read_accepts_or_blames wellKeyed_simpleValue
  have hlists : Lists simpleValue _ := ⟨_, rfl, rfl⟩
  obtain ⟨hgood, hspelled, -⟩ := haccepts _ hlists
  obtain ⟨d, -, hread, -⟩ := read_of_isDocument wellKeyed_simpleValue
    (Schema.violations_bindings_eq_nil_iff.mp violations_simpleValue)
  exact ⟨wellKeyed_simpleValue, _, d, hlists, hread, hgood.mp ⟨d, hread⟩, (hspelled d).mp hread⟩

end Document

end ProfileBindings
