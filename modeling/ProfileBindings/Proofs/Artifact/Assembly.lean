import ProfileBindings.Artifact.Render
import ProfileBindings.Proofs.Config.Valid
import ProfileBindings.Proofs.Steps

/-!
# When the artifacts can be assembled

An artifact is assembled from parts that always exist; what can fail is a check in front of them.

* `ProfileEntry.assemble`, `Source.assemble`, `Header.assemble` : the parts, without the checks;
* `Fits` : a profile passes its checks.

Main statements: `render_source_eq_ok_iff` and `render_header_eq_ok_iff`.
-/

namespace ProfileBindings.Artifact

/-- The entry of a profile, whether or not it passes its checks. -/
def ProfileEntry.assemble (p : Profile) : ProfileEntry where
  device := p.device
  path := p.name.path
  localizedName := p.title
  steamvrInputProfilePath := p.name.steamvrInputProfilePath
  steamvrControllerType := p.name.steamvrControllerType
  components := p.expand.map ComponentEntry.ofComponent

/-- The source of a document, whether or not it passes its checks. -/
def Source.assemble (config : Config) (d : Document) : Source where
  spdxLicense := config.spdxLicense
  headerInclude := config.headerInclude
  verifyFunctions := d.profiles.map (VerifyFunction.ofProfile config)
  profiles := d.profiles.map ProfileEntry.assemble
  inputs := ⟨.input, (EnumeratorNames.ofDocument d config.extraInputs).inputs.toList,
    config.inputFallback⟩
  outputs := ⟨.output, (EnumeratorNames.ofDocument d config.extraInputs).outputs.toList,
    config.outputFallback⟩

/-- The header of a document, whether or not it passes its checks. -/
def Header.assemble (config : Config) (d : Document) : Header where
  spdxLicense := config.spdxLicense
  definesInclude := config.definesInclude
  verifyFunctions := d.profiles.map fun p => VerifyFunction.nameOf config p.name
  pathsPerTemplate := config.pathsPerTemplate
  profileCount := d.profiles.length

/-- The profile has components, and their paths leave room for the terminator. -/
structure Fits (config : Config) (p : Profile) : Prop where
  expands : p.expand ≠ []
  paths : ∀ c ∈ p.expand, c.paths.length < config.pathsPerTemplate

theorem ofProfile_eq_ok_iff {config : Config} {p : Profile} {e : ProfileEntry} :
    ProfileEntry.ofProfile config p = .ok e ↔ Fits config p ∧ e = .assemble p := by
  unfold ProfileEntry.ofProfile
  by_cases hempty : p.expand = []
  · have hfits : ¬Fits config p := fun h => h.expands hempty
    simp [hempty, hfits]
  · rw [if_neg (by simpa using hempty)]
    -- The check looks for the first component that is too long; there is none exactly if all fit.
    cases hfind : p.expand.zipIdx.find? fun item => config.pathsPerTemplate ≤ item.1.paths.length with
    | some item =>
      have hitem : item ∈ p.expand.zipIdx := List.mem_of_find?_eq_some hfind
      have hlong : config.pathsPerTemplate ≤ item.1.paths.length := by
        simpa using List.find?_some hfind
      have hfits : ¬Fits config p := fun h =>
        absurd (h.paths item.1 (List.fst_mem_of_mem_zipIdx hitem)) (Nat.not_lt.mpr hlong)
      simp [hfits]
    | none =>
      have hfits : Fits config p := by
        refine ⟨hempty, fun c hc => ?_⟩
        rw [← List.zipIdx_map_fst 0 p.expand] at hc
        obtain ⟨item, hitem, rfl⟩ := List.mem_map.mp hc
        simpa using List.find?_eq_none.mp hfind item hitem
      simp [hfits, ProfileEntry.assemble, eq_comm]

/-! ## Checks in a row -/

/-- The checks in front of either artifact: the configuration, then whether there are profiles. -/
theorem checks_eq_ok_iff {config : Config} {d : Document} {α : Type} {rest : Except Error α} {a : α} :
    (do
      config.check.mapError Error.invalidConfig
      if d.profiles.isEmpty then throw Error.noProfiles
      rest) = .ok a ↔ config.Valid ∧ d.profiles ≠ [] ∧ rest = .ok a := by
  rw [bind_eq_ok_iff]
  constructor
  · rintro ⟨u, hcheck, hrest⟩
    have hvalid : config.Valid := Config.check_eq_ok_iff.mp (mapError_eq_ok_iff.mp hcheck)
    by_cases hempty : d.profiles = []
    · simp [hempty, throw, throwThe, MonadExceptOf.throw, bind, Except.bind] at hrest
    · rw [if_neg (by simpa using hempty)] at hrest
      exact ⟨hvalid, hempty, hrest⟩
  · rintro ⟨hvalid, hempty, hrest⟩
    refine ⟨(), mapError_eq_ok_iff.mpr (Config.check_eq_ok_iff.mpr hvalid), ?_⟩
    rw [if_neg (by simpa using hempty)]
    exact hrest

theorem ofDocument_eq_ok_iff {config : Config} {d : Document} {s : Source} :
    Source.ofDocument config d = .ok s ↔
      config.Valid ∧ d.profiles ≠ [] ∧ (∀ p ∈ d.profiles, Fits config p) ∧ s = .assemble config d := by
  unfold Source.ofDocument
  rw [checks_eq_ok_iff, bind_eq_ok_iff]
  refine and_congr_right fun _ => and_congr_right fun _ => ?_
  constructor
  · rintro ⟨entries, hentries, hs⟩
    obtain ⟨hfits, rfl⟩ := (mapM_eq_ok_map_iff fun _ _ => ofProfile_eq_ok_iff).mp hentries
    exact ⟨hfits, (Except.ok.inj hs).symm⟩
  · rintro ⟨hfits, rfl⟩
    exact ⟨_, (mapM_eq_ok_map_iff fun _ _ => ofProfile_eq_ok_iff).mpr ⟨hfits, rfl⟩, rfl⟩

theorem Header.ofDocument_eq_ok_iff {config : Config} {d : Document} {h : Header} :
    Header.ofDocument config d = .ok h ↔ config.Valid ∧ d.profiles ≠ [] ∧ h = .assemble config d := by
  unfold Header.ofDocument
  rw [checks_eq_ok_iff]
  refine and_congr_right fun _ => and_congr_right fun _ => ?_
  exact ⟨fun h => (Except.ok.inj h).symm, fun h => congrArg Except.ok h.symm⟩

/-- The source of a document is its parts, where all checks pass. -/
theorem render_source_eq_ok_iff {config : Config} {d : Document} {text : String} :
    render .source config d = .ok text ↔
      config.Valid ∧ d.profiles ≠ [] ∧ (∀ p ∈ d.profiles, Fits config p) ∧
        text = (Source.assemble config d).print := by
  refine map_eq_ok_iff.trans ?_
  constructor
  · rintro ⟨s, hs, rfl⟩
    obtain ⟨hvalid, hempty, hfits, rfl⟩ := ofDocument_eq_ok_iff.mp hs
    exact ⟨hvalid, hempty, hfits, rfl⟩
  · rintro ⟨hvalid, hempty, hfits, rfl⟩
    exact ⟨_, ofDocument_eq_ok_iff.mpr ⟨hvalid, hempty, hfits, rfl⟩, rfl⟩

/-- The header of a document is its parts, where all checks pass. It does not look into the profiles. -/
theorem render_header_eq_ok_iff {config : Config} {d : Document} {text : String} :
    render .header config d = .ok text ↔
      config.Valid ∧ d.profiles ≠ [] ∧ text = (Header.assemble config d).print := by
  refine map_eq_ok_iff.trans ?_
  constructor
  · rintro ⟨h, hh, rfl⟩
    obtain ⟨hvalid, hempty, rfl⟩ := Header.ofDocument_eq_ok_iff.mp hh
    exact ⟨hvalid, hempty, rfl⟩
  · rintro ⟨hvalid, hempty, rfl⟩
    exact ⟨_, Header.ofDocument_eq_ok_iff.mpr ⟨hvalid, hempty, rfl⟩, rfl⟩

end ProfileBindings.Artifact
