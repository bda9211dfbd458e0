import ProfileBindings.Proofs.Artifact.Sound

/-!
# When an artifact cannot be generated

Three things can stand in the way of an artifact: the configuration is invalid, there are no profiles, or,
for the source only, a profile has no components. What is looked at first is what is reported. Too many paths
are never reported: a component has three at most, and a valid configuration leaves room for them.

* `Fails` : what stands in the way, one rule for each cause.

Main statements:
* `render_eq_error_iff` : an artifact is refused for a cause exactly if it stands in the way;
* `exists_render_iff` : an artifact is generated exactly if nothing stands in the way;
* `render_fails_exactly` : both, and that a sound document has both artifacts.
-/

namespace ProfileBindings

/-- A component is found by its own path, or two of them, and by the path of its surface. -/
theorem Component.length_paths_le_three (c : Component) : c.paths.length ≤ 3 := by
  unfold Component.paths
  split <;> simp

namespace Artifact

open Check

variable {config : Config} {d : Document} {kind : Kind} {e : Error}

/-! ## Profiles -/

/-- A valid configuration has room for the paths of every component. -/
theorem fits_iff_expands (hc : config.Valid) {p : Profile} : Fits config p ↔ p.expand ≠ [] := by
  constructor
  · exact Fits.expands
  · intro hexpands
    refine ⟨hexpands, fun c _ => ?_⟩
    have hlength := c.length_paths_le_three
    have hcapacity : 4 ≤ config.pathsPerTemplate := hc.pathsPerTemplate
    omega

theorem exists_ofProfile_iff (hc : config.Valid) {p : Profile} :
    (∃ entry, ProfileEntry.ofProfile config p = .ok entry) ↔ p.expand ≠ [] := by
  simp [ofProfile_eq_ok_iff, fits_iff_expands hc]

/-- A profile is refused only for having no components. -/
theorem ofProfile_eq_error_iff (hc : config.Valid) {p : Profile} :
    ProfileEntry.ofProfile config p = .error e ↔ p.expand = [] ∧ e = .noBindings p.name := by
  by_cases hexpand : p.expand = []
  · simp [ProfileEntry.ofProfile, hexpand, eq_comm]
  · obtain ⟨entry, hentry⟩ := (exists_ofProfile_iff hc).mpr hexpand
    simp [hentry, hexpand]

/-! ## Documents -/

/-- What stands in the way of an artifact. -/
inductive Fails (config : Config) (d : Document) : Kind → Error → Prop where
  | invalidConfig {kind : Kind} {fault : Config.Fault} (hcheck : config.check = .error fault) :
    Fails config d kind (.invalidConfig fault)
  | noProfiles {kind : Kind} (hvalid : config.Valid) (hempty : d.profiles = []) :
    Fails config d kind .noProfiles
  /-- The first profile without components is reported. -/
  | noBindings {before : List Profile} {p : Profile} {after : List Profile} (hvalid : config.Valid)
      (hprofiles : d.profiles = before ++ p :: after) (hbefore : ∀ q ∈ before, q.expand ≠ [])
      (hexpand : p.expand = []) :
    Fails config d .source (.noBindings p.name)

/-- The checks in front of either artifact: the configuration, then whether there are profiles. -/
theorem checks_eq_error_iff {α : Type} {rest : Except Error α} :
    (do
      config.check.mapError Error.invalidConfig
      if d.profiles.isEmpty then throw Error.noProfiles
      rest) = .error e ↔
      (∃ fault, config.check = .error fault ∧ Error.invalidConfig fault = e) ∨
      (config.Valid ∧ d.profiles = [] ∧ e = .noProfiles) ∨
      (config.Valid ∧ d.profiles ≠ [] ∧ rest = .error e) := by
  rw [bind_eq_error_iff, mapError_eq_error_iff]
  have hvalid : (∃ u, config.check.mapError Error.invalidConfig = .ok u) ↔ config.Valid := by
    simp only [mapError_eq_ok_iff, ← Config.check_eq_ok_iff]
    exact ⟨fun ⟨(), h⟩ => h, fun h => ⟨(), h⟩⟩
  refine or_congr Iff.rfl ?_
  rw [exists_and_right, hvalid]
  by_cases hempty : d.profiles = []
  · simp [hempty, throw, throwThe, MonadExceptOf.throw, bind, Except.bind, eq_comm]
  · simp [hempty]

theorem Header.ofDocument_eq_error_iff :
    Header.ofDocument config d = .error e ↔ Fails config d .header e := by
  unfold Header.ofDocument
  rw [checks_eq_error_iff]
  constructor
  · rintro (⟨fault, hcheck, rfl⟩ | ⟨hvalid, hempty, rfl⟩ | ⟨-, -, hrest⟩)
    · exact .invalidConfig hcheck
    · exact .noProfiles hvalid hempty
    · cases hrest
  · intro h
    cases h with
    | invalidConfig hcheck => exact .inl ⟨_, hcheck, rfl⟩
    | noProfiles hvalid hempty => exact .inr (.inl ⟨hvalid, hempty, rfl⟩)

theorem Source.ofDocument_eq_error_iff :
    Source.ofDocument config d = .error e ↔ Fails config d .source e := by
  unfold Source.ofDocument
  rw [checks_eq_error_iff]
  constructor
  · rintro (⟨fault, hcheck, rfl⟩ | ⟨hvalid, hempty, rfl⟩ | ⟨hvalid, -, hrest⟩)
    · exact .invalidConfig hcheck
    · exact .noProfiles hvalid hempty
    · have hentries : d.profiles.mapM (ProfileEntry.ofProfile config) = .error e := by
        simpa [bind_eq_error_iff, pure, Except.pure] using hrest
      obtain ⟨before, p, after, hprofiles, hbefore, hp⟩ := mapM_eq_error_iff.mp hentries
      obtain ⟨hexpand, rfl⟩ := (ofProfile_eq_error_iff hvalid).mp hp
      exact .noBindings hvalid hprofiles (fun q hq => (exists_ofProfile_iff hvalid).mp (hbefore q hq))
        hexpand
  · intro h
    cases h with
    | invalidConfig hcheck => exact .inl ⟨_, hcheck, rfl⟩
    | noProfiles hvalid hempty => exact .inr (.inl ⟨hvalid, hempty, rfl⟩)
    | noBindings hvalid hprofiles hbefore hexpand =>
      refine .inr (.inr ⟨hvalid, by simp [hprofiles], bind_eq_error_iff.mpr (.inl ?_)⟩)
      exact mapM_eq_error_iff.mpr ⟨_, _, _, hprofiles,
        fun q hq => (exists_ofProfile_iff hvalid).mpr (hbefore q hq),
        (ofProfile_eq_error_iff hvalid).mpr ⟨hexpand, rfl⟩⟩

/-- An artifact is refused for a cause exactly if the cause stands in its way. -/
theorem render_eq_error_iff : render kind config d = .error e ↔ Fails config d kind e := by
  cases kind with
  | source => exact map_eq_error_iff.trans Source.ofDocument_eq_error_iff
  | header => exact map_eq_error_iff.trans Header.ofDocument_eq_error_iff

/-- An artifact is generated exactly if nothing stands in its way. -/
theorem exists_render_iff :
    (∃ text, render kind config d = .ok text) ↔
      config.Valid ∧ d.profiles ≠ [] ∧ (kind = .source → ∀ p ∈ d.profiles, p.expand ≠ []) := by
  cases kind with
  | source =>
    simp only [render_source_eq_ok_iff, exists_and_left, exists_eq, and_true, true_imp_iff]
    refine and_congr_right fun hvalid => and_congr_right fun _ => ?_
    simp only [fits_iff_expands hvalid]
  | header => simp [render_header_eq_ok_iff]

/-- An artifact is refused for what stands in its way, first for the configuration, then for having no
profiles, and the source then for the first profile without components. Too many paths never stand in its
way. Where nothing does, the artifact is generated, and nothing does where the configuration is valid and the
document has profiles and no errors. -/
theorem render_fails_exactly (config : Config) (d : Document) :
    (∀ kind e, render kind config d = .error e ↔ Fails config d kind e) ∧
    (∀ kind profile index component capacity,
      render kind config d ≠ .error (.tooManyPaths profile index component capacity)) ∧
    (∀ kind, (∃ text, render kind config d = .ok text) ↔
      config.Valid ∧ d.profiles ≠ [] ∧ (kind = .source → ∀ p ∈ d.profiles, p.expand ≠ [])) ∧
    (config.Valid → d.profiles ≠ [] → hasErrors (issues d config.pathsPerTemplate) = false →
      ∀ kind, ∃ text, render kind config d = .ok text) := by
  refine ⟨fun _ _ => render_eq_error_iff, ?_, fun _ => exists_render_iff, ?_⟩
  · intro kind profile index component capacity h
    cases render_eq_error_iff.mp h
  · intro hvalid hprofiles herrors kind
    have hd : SoundDocument config.pathsPerTemplate d := hasErrors_eq_false_iff.mp herrors
    exact exists_render_iff.mpr ⟨hvalid, hprofiles, fun _ p hp => (hd.profiles p hp).expands⟩

/-- A controller for no hand, so that it has no components. -/
def bareController : Profile := { simpleController with subactionPaths := [] }

/-- The small document has both artifacts. Behind it, a profile without components keeps the source from being
generated, under its own name, and the header is not kept. -/
theorem render_simpleDocument_and_bare :
    (∀ kind, ∃ text, render kind .standard simpleDocument = .ok text) ∧
    render .source .standard ⟨[simpleController, bareController]⟩ = .error (.noBindings bareController.name) ∧
    ∃ text, render .header .standard ⟨[simpleController, bareController]⟩ = .ok text := by
  refine ⟨(render_fails_exactly .standard simpleDocument).2.2.2 valid_standard (by simp [simpleDocument])
    hasErrors_simpleDocument, ?_, ?_⟩
  · have hbefore : ∀ q ∈ [simpleController], q.expand ≠ [] := by
      simp only [List.mem_singleton, forall_eq]
      decide
    have hprofiles : [simpleController, bareController] = [simpleController] ++ bareController :: [] := rfl
    exact ((render_fails_exactly .standard _).1 .source _).mpr (.noBindings valid_standard hprofiles hbefore rfl)
  · exact ((render_fails_exactly .standard _).2.2.1 .header).mpr ⟨valid_standard, by simp, by simp⟩

end Artifact

end ProfileBindings
