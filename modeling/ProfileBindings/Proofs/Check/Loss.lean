import ProfileBindings.Proofs.Check.Blame
import ProfileBindings.Proofs.Enumerator.Names
import ProfileBindings.Proofs.Profile.Reading

/-!
# Nothing is lost without an issue

What a sub-path declares does not always reach the generated source: a side may keep it from all subaction
paths, a profile may have none, and an entry may be for a component that the sub-path does not have. In each of
these cases there is an issue about the sub-path, or about its profile as a whole.

* `Reaches` : a sub-path exists under some subaction path of a profile;
* `Reported` : there is an issue about a sub-path, or about its profile.

Main statements:
* `sideNeverMatches_mem_issues_iff` : who is told that its side matches nothing;
* `nothing_is_lost_silently` : components and bound enumerators are taken over, or something is reported.
-/

namespace ProfileBindings.Check

variable {d : Document} {p : Profile} {s : SubPath} {capacity : Nat} {cause : Issue.Cause}

/-! ## Where a sub-path is found -/

/-- The sub-path exists under some subaction path of the profile. -/
def Reaches (p : Profile) (s : SubPath) : Prop :=
  ∃ subaction ∈ p.subactionPaths, s.appliesTo subaction = true

/-- A component of a sub-path is expanded exactly if the sub-path is found somewhere. -/
theorem exists_mem_expand_iff (hs : s ∈ p.subPaths) {name : String} :
    (∃ c ∈ p.expand, c.subPath = s ∧ c.name = name) ↔ Reaches p s ∧ name ∈ s.components := by
  constructor
  · rintro ⟨c, hc, rfl, rfl⟩
    obtain ⟨hsubaction, -, happlies, hname⟩ := Profile.mem_expand.mp hc
    exact ⟨⟨c.subaction, hsubaction, happlies⟩, hname⟩
  · rintro ⟨⟨subaction, hsubaction, happlies⟩, hname⟩
    exact ⟨⟨subaction, s, name⟩, Profile.mem_expand.mpr ⟨hsubaction, hs, happlies, hname⟩, rfl, rfl⟩

/-- A sub-path without side is found in every profile that has subaction paths. -/
theorem reaches_of_side_none (hside : s.side = none) (hpaths : p.subactionPaths ≠ []) : Reaches p s := by
  obtain ⟨subaction, hsubaction⟩ := List.exists_mem_of_ne_nil _ hpaths
  exact ⟨subaction, hsubaction, by rw [SubPath.appliesTo, hside]⟩

/-! ## Warnings about a sub-path -/

theorem mem_sideIssues_iff :
    cause ∈ sideIssues p.subactionPaths s ↔
      ∃ side, s.side = some side ∧ ¬Reaches p s ∧ cause = .sideNeverMatches side := by
  unfold sideIssues Reaches
  cases s.side with
  | none => simp
  | some side => split <;> simp_all

theorem mem_strayIssues_iff :
    cause ∈ strayIssues s ↔
      ∃ name found, s.bindings.get? name = some found ∧ name ∉ s.components ∧ cause = .strayEntry name := by
  simp only [strayIssues, Sorted.Table.keys, List.mem_map, List.mem_filter, Sorted.Table.get?_eq_some_iff]
  constructor
  · rintro ⟨name, ⟨⟨⟨_, found⟩, hentry, rfl⟩, hstray⟩, rfl⟩
    exact ⟨_, found, hentry, by simpa using hstray, rfl⟩
  · rintro ⟨name, found, hentry, hstray, rfl⟩
    exact ⟨name, ⟨⟨_, hentry, rfl⟩, by simpa using hstray⟩, rfl⟩

/-- The only warnings that name a side are those about sides. -/
theorem sideNeverMatches_mem_subPathIssues_iff {side : String} :
    .sideNeverMatches side ∈ subPathIssues p.subactionPaths s ↔ s.side = some side ∧ ¬Reaches p s := by
  have hcomponent : ∀ name, .sideNeverMatches side ∉ componentIssues s name := by
    intro name hmem
    unfold componentIssues at hmem
    rcases List.mem_append.mp hmem with hkind | hbinding
    · split at hkind <;> simp at hkind
    · split at hbinding
      · simp at hbinding
      · simp at hbinding
      · cases mem_bindingIssues_iff.mp hbinding
  have hstray : .sideNeverMatches side ∉ strayIssues s := by
    intro hmem
    obtain ⟨_, _, _, _, hcause⟩ := mem_strayIssues_iff.mp hmem
    cases hcause
  unfold subPathIssues
  rw [List.mem_append, List.mem_append, or_iff_left hstray, or_iff_left (by simp [hcomponent]),
    mem_sideIssues_iff]
  simp

/-! ## Issues of a document -/

/-- There is an issue about the sub-path, or about its profile as a whole. -/
def Reported (d : Document) (capacity : Nat) (p : Profile) (s : SubPath) : Prop :=
  ∃ i ∈ issues d capacity, i.profile = p.name ∧ (i.subPath = none ∨ i.subPath = some s.path)

/-- What is wrong with a sub-path is an issue of the document. -/
theorem mem_issues_of_mem_subPathIssues (hp : p ∈ d.profiles) (hs : s ∈ p.subPaths)
    (h : cause ∈ subPathIssues p.subactionPaths s) : ⟨p.name, some s.path, cause⟩ ∈ issues d capacity := by
  obtain ⟨before, after, hd⟩ := List.append_of_mem hp
  refine mem_issues_iff_exists.mpr ⟨before, p, after, hd, ?_⟩
  unfold profileIssues
  refine List.mem_append_left _ (List.mem_append_right _ ?_)
  exact List.mem_flatMap.mpr ⟨s, hs, List.mem_map.mpr ⟨cause, h, rfl⟩⟩

theorem reported_of_mem_subPathIssues (hp : p ∈ d.profiles) (hs : s ∈ p.subPaths)
    (h : cause ∈ subPathIssues p.subactionPaths s) : Reported d capacity p s :=
  ⟨_, mem_issues_of_mem_subPathIssues hp hs h, rfl, .inr rfl⟩

/-- A profile that expands to nothing is reported. -/
theorem reported_of_expand_eq_nil (hp : p ∈ d.profiles) (hexpand : p.expand = []) : Reported d capacity p s := by
  obtain ⟨before, after, hd⟩ := List.append_of_mem hp
  have hbreaks : ∃ cause, Breaks capacity before p none cause := by
    by_cases hpaths : p.subactionPaths = []
    · exact ⟨_, .noSubactionPaths hexpand hpaths⟩
    · exact ⟨_, .nothingApplies hexpand hpaths⟩
  obtain ⟨cause, hcause⟩ := hbreaks
  have hblamed : Blamed capacity d ⟨p.name, none, cause⟩ := ⟨before, p, after, none, hd, hcause, rfl, rfl⟩
  exact ⟨_, (mem_issues_iff.mpr hblamed).1, rfl, .inl rfl⟩

/-- A sub-path that is found nowhere is reported. -/
theorem reported_of_not_reaches (hp : p ∈ d.profiles) (hs : s ∈ p.subPaths) (h : ¬Reaches p s) :
    Reported d capacity p s := by
  cases hside : s.side with
  | none =>
    -- A sub-path of both sides is found everywhere, so that there is nowhere to be found.
    have hpaths : p.subactionPaths = [] := not_not.mp fun hne => h (reaches_of_side_none hside hne)
    exact reported_of_expand_eq_nil hp (by simp [Profile.expand, hpaths])
  | some side =>
    have hcause := sideNeverMatches_mem_subPathIssues_iff.mpr ⟨hside, h⟩
    exact reported_of_mem_subPathIssues hp hs hcause

/-- Where the names are distinct, the warning about a side is given to the sub-paths that are found nowhere. -/
theorem sideNeverMatches_mem_issues_iff (hd : d.Distinct) (hp : p ∈ d.profiles) (hs : s ∈ p.subPaths)
    {side : String} : ⟨p.name, some s.path, .sideNeverMatches side⟩ ∈ issues d capacity ↔
      s.side = some side ∧ ¬Reaches p s := by
  rw [← sideNeverMatches_mem_subPathIssues_iff]
  refine ⟨fun h => ?_, mem_issues_of_mem_subPathIssues hp hs⟩
  -- Only the check of a sub-path gives this warning, and it gives it under the path of the sub-path.
  obtain ⟨before, q, after, hsplit, hmem⟩ := mem_issues_iff_exists.mp h
  have hq : q ∈ d.profiles := by simp [hsplit]
  unfold profileIssues at hmem
  rcases List.mem_append.mp hmem with hmem | hcapacity
  · rcases List.mem_append.mp hmem with hown | hsubPath
    · obtain ⟨_, _, heq⟩ := List.mem_map.mp hown
      cases (Issue.mk.inj heq).2.1
    · obtain ⟨t, ht, hmem⟩ := List.mem_flatMap.mp hsubPath
      obtain ⟨cause, hcause, heq⟩ := List.mem_map.mp hmem
      obtain ⟨hname, hpath, rfl⟩ := Issue.mk.inj heq
      -- Another profile would have another name, and another sub-path another path.
      obtain rfl : q = p := List.inj_on_of_nodup_map hd.names hq hp (congrArg ProfileName.path hname)
      obtain rfl : t = s := List.inj_on_of_nodup_map (hd.paths q hq) ht hs (Option.some.inj hpath)
      exact hcause
  · obtain ⟨-, _, _, _, _, hcause⟩ := mem_placed_capacityIssues_iff.mp hcapacity
    cases hcause

/-! ## What is declared -/

/-- A component is taken over, or its sub-path is reported. -/
theorem component_expands_or_reported (hp : p ∈ d.profiles) (hs : s ∈ p.subPaths) {name : String}
    (hname : name ∈ s.components) :
    (∃ c ∈ p.expand, c.subPath = s ∧ c.name = name) ∨ Reported d capacity p s := by
  by_cases h : Reaches p s
  · exact .inl ((exists_mem_expand_iff hs).mpr ⟨h, hname⟩)
  · exact .inr (reported_of_not_reaches hp hs h)

/-- An enumerator is among those of the document, or the sub-path that binds it is reported. -/
theorem enumerator_collected_or_reported (hp : p ∈ d.profiles) (hs : s ∈ p.subPaths) {name e : String}
    (hentry : s.bindings.get? name = some (some e)) :
    e ∈ ((EnumeratorNames.ofDocument d []).of (.ofComponent name)).toList ∨ Reported d capacity p s := by
  by_cases hname : name ∈ s.components
  · -- A component that is expanded brings its enumerator with it.
    refine (component_expands_or_reported hp hs hname).imp_left ?_
    rintro ⟨c, hc, rfl, rfl⟩
    have hbound : c.binding = .bound e := by rw [Component.binding, SubPath.binding, hentry]
    exact EnumeratorNames.mem_of_binds ⟨p, hp, c, hc, rfl, hbound⟩ []
  · have hstray := mem_strayIssues_iff.mpr ⟨name, some e, hentry, hname, rfl⟩
    exact .inr (reported_of_mem_subPathIssues hp hs (List.mem_append_right _ hstray))

/-- Whatever a sub-path declares is taken over, or there is an issue about the sub-path or its profile. In a
document that was read, a sub-path with components in a profile with subaction paths is told that its side
matches nothing exactly if none of its components is expanded. -/
theorem nothing_is_lost_silently (d : Document) (p : Profile) (s : SubPath) (capacity : Nat)
    (hp : p ∈ d.profiles) (hs : s ∈ p.subPaths) :
    (∀ name ∈ s.components,
      (∃ c ∈ p.expand, c.subPath = s ∧ c.name = name) ∨ Reported d capacity p s) ∧
    (∀ name e, s.bindings.get? name = some (some e) →
      e ∈ ((EnumeratorNames.ofDocument d []).of (.ofComponent name)).toList ∨ Reported d capacity p s) ∧
    ∀ v : Json, v.WellKeyed → Document.read v = .ok d → p.subactionPaths ≠ [] → s.components ≠ [] →
      ((∃ side, ⟨p.name, some s.path, .sideNeverMatches side⟩ ∈ issues d capacity) ↔
        ∀ c ∈ p.expand, c.subPath ≠ s) := by
  refine ⟨fun _ => component_expands_or_reported hp hs, fun _ _ => enumerator_collected_or_reported hp hs,
    fun v hkeys hread hpaths hcomponents => ?_⟩
  simp only [sideNeverMatches_mem_issues_iff (Document.distinct_of_read hkeys hread) hp hs]
  constructor
  · rintro ⟨side, -, hnowhere⟩ c hc rfl
    exact hnowhere ((exists_mem_expand_iff hs).mp ⟨c, hc, rfl, rfl⟩).1
  · intro h
    obtain ⟨name, hname⟩ := List.exists_mem_of_ne_nil _ hcomponents
    have hnowhere : ¬Reaches p s := by
      intro hreaches
      obtain ⟨c, hc, hsubPath, -⟩ := (exists_mem_expand_iff hs).mpr ⟨hreaches, hname⟩
      exact h c hc hsubPath
    cases hside : s.side with
    | none => exact absurd (reaches_of_side_none hside hpaths) hnowhere
    | some side => exact ⟨side, rfl, hnowhere⟩

/-! ## A button of the other hand -/

/-- A button on the right side. -/
def rightButton : SubPath where
  path := "/input/a"
  kind := "button"
  localizedName := "A"
  side := some "right"
  components := ["click"]
  bindings := .ofList [("click", some "XRT_INPUT_INDEX_A_CLICK")]

/-- A controller for the left hand that has the button of the right side. -/
def leftController : Profile where
  name := ⟨["valve", "index_controller"], by decide, by decide⟩
  title := "Index Controller"
  deviceType := "index"
  device := "XRT_DEVICE_INDEX_CONTROLLER"
  subactionPaths := ["/user/hand/left"]
  subPaths := [rightButton]

/-- The document that holds this controller only, as a value. -/
def leftValue : Json :=
  .obj [("profiles", .obj [("/interaction_profiles/valve/index_controller", .obj [
    ("title", .str "Index Controller"),
    ("type", .str "index"),
    ("monado_device", .str "XRT_DEVICE_INDEX_CONTROLLER"),
    ("subaction_paths", .arr [.str "/user/hand/left"]),
    ("subpaths", .obj [("/input/a", rightButton.write)])])])]

theorem wellKeyed_leftValue : leftValue.WellKeyed := by
  simp [leftValue, rightButton.wellKeyed_write, Json.WellKeyed, Json.MembersWellKeyed, Json.ItemsWellKeyed,
    Json.Fields.keys]

theorem read_leftValue : Document.read leftValue = .ok ⟨[leftController]⟩ := by
  refine (Document.Lists.read_eq_ok_iff ⟨_, rfl, rfl⟩ wellKeyed_leftValue).mpr (.cons ?_ .nil)
  exact ⟨by decide, _, ⟨_, .named _, rfl, rfl, rfl, rfl, rfl⟩, .cons rightButton.spelledBy_write .nil⟩

theorem rightButton_is_reported :
    leftValue.WellKeyed ∧ Document.read leftValue = .ok ⟨[leftController]⟩ ∧
      Reported ⟨[leftController]⟩ 4 leftController rightButton ∧
      ∃ side, ⟨leftController.name, some rightButton.path, .sideNeverMatches side⟩ ∈ issues ⟨[leftController]⟩ 4 := by
  obtain ⟨hcomponents, -, htold⟩ := nothing_is_lost_silently ⟨[leftController]⟩ leftController rightButton 4
    List.mem_cons_self List.mem_cons_self
  have hnothing : leftController.expand = [] := by decide
  refine ⟨wellKeyed_leftValue, read_leftValue, (hcomponents "click" List.mem_cons_self).resolve_left ?_,
    (htold leftValue wellKeyed_leftValue read_leftValue (by decide) (by decide)).mpr ?_⟩
  · simp [hnothing]
  · simp [hnothing]

end ProfileBindings.Check
