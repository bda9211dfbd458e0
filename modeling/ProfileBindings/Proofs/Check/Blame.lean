import ProfileBindings.Proofs.Check.Errors

/-!
# What an error blames

An error names a profile and, if it concerns one, a sub-path. Both are in the document, and they break the
rule that the error is about. The other way round, whatever breaks a rule is named by an error.

* `Misbinds` : an enumerator does not fit the component that it is bound to;
* `Breaks` : a profile, or one of its sub-paths, breaks a rule, given the profiles in front of it;
* `Blamed` : the profile and the sub-path that an issue names break the rule that it is about.

Main statements:
* `mem_issues_iff` : the errors of a document are the issues that blame rightly;
* `errors_sound_and_complete` : a document has no errors exactly if it is sound, and each error blames
  rightly.
-/

namespace ProfileBindings.Check

/-- An enumerator does not fit a component, and why. -/
inductive Misbinds (name e : String) : Issue.Cause → Prop
  | noIdentifier (hidentifier : Text.isIdentifier e = false) :
      Misbinds name e (.bindingNoIdentifier e name)
  | foreign (hidentifier : Text.isIdentifier e = true) (hactual : Direction.ofEnumerator? e = none) :
      Misbinds name e (.foreignEnumerator e name)
  | direction {actual : Direction} (hidentifier : Text.isIdentifier e = true)
      (hactual : Direction.ofEnumerator? e = some actual) (hother : actual ≠ .ofComponent name) :
      Misbinds name e (.wrongDirection e name actual (.ofComponent name))

/-- A rule is broken: by the profile itself, or by one of its sub-paths. -/
inductive Breaks (capacity : Nat) (before : List Profile) (p : Profile) :
    Option SubPath → Issue.Cause → Prop
  | device (hidentifier : Text.isIdentifier p.device = false) :
      Breaks capacity before p none (.deviceNoIdentifier p.device)
  /-- Of the profiles in front with the same stem, the first one is named. -/
  | stem {first : Profile} (hfirst : before.find? (·.name.stem == p.name.stem) = some first) :
      Breaks capacity before p none (.stemTaken p.name.stem first.name)
  | noSubactionPaths (hexpand : p.expand = []) (hpaths : p.subactionPaths = []) :
      Breaks capacity before p none .noSubactionPaths
  | nothingApplies (hexpand : p.expand = []) (hpaths : p.subactionPaths ≠ []) :
      Breaks capacity before p none .nothingApplies
  /-- Sub-paths that exist under no subaction path are bound by the rule too. -/
  | binding {s : SubPath} {name e : String} {cause : Issue.Cause} (hs : s ∈ p.subPaths)
      (hname : name ∈ s.components) (hbound : s.binding name = .bound e)
      (hcause : Misbinds name e cause) : Breaks capacity before p (some s) cause
  | capacity {c : Component} (hc : c ∈ p.expand) (hlong : capacity ≤ c.paths.length) :
      Breaks capacity before p (some c.subPath) (.tooManyPaths c.name c.paths.length capacity)

/-- The profile that an issue names is in the document, the sub-path that it names, if any, is in the
profile, and they break the rule that the issue is about. -/
def Blamed (capacity : Nat) (d : Document) (i : Issue) : Prop :=
  ∃ before p after s, d.profiles = before ++ p :: after ∧ Breaks capacity before p s i.cause ∧
    i.profile = p.name ∧ i.subPath = s.map SubPath.path

variable {capacity : Nat} {before : List Profile} {p : Profile} {s : SubPath} {cause : Issue.Cause}

theorem Misbinds.severity {name e : String} (h : Misbinds name e cause) : cause.severity = .error := by
  cases h <;> rfl

/-- Whatever breaks a rule keeps the document from being generated. -/
theorem Breaks.severity {s : Option SubPath} (h : Breaks capacity before p s cause) :
    cause.severity = .error := by
  cases h with
  | binding _ _ _ hcause => exact hcause.severity
  | _ => rfl

/-! ## Rules of a profile -/

theorem mem_ownIssues_iff :
    cause ∈ deviceIssues p ++ stemIssues (heldBy before) p ++ emptinessIssues p ↔
      Breaks capacity before p none cause := by
  have hdevice : cause ∈ deviceIssues p ↔
      Text.isIdentifier p.device = false ∧ cause = .deviceNoIdentifier p.device := by
    unfold deviceIssues
    split <;> simp [*]
  have hstem : cause ∈ stemIssues (heldBy before) p ↔
      ∃ first, before.find? (·.name.stem == p.name.stem) = some first ∧
        cause = .stemTaken p.name.stem first.name := by
    rw [stemIssues_heldBy]
    cases before.find? (·.name.stem == p.name.stem) <;> simp
  have hempty : cause ∈ emptinessIssues p ↔
      p.expand = [] ∧ cause = if p.subactionPaths = [] then .noSubactionPaths else .nothingApplies := by
    unfold emptinessIssues
    split <;> simp_all
  rw [List.mem_append, List.mem_append, hdevice, hstem, hempty]
  constructor
  · rintro ((⟨hidentifier, rfl⟩ | ⟨first, hfirst, rfl⟩) | ⟨hexpand, rfl⟩)
    · exact .device hidentifier
    · exact .stem hfirst
    · by_cases hpaths : p.subactionPaths = []
      · rw [if_pos hpaths]
        exact .noSubactionPaths hexpand hpaths
      · rw [if_neg hpaths]
        exact .nothingApplies hexpand hpaths
  · intro h
    cases h with
    | device hidentifier => exact Or.inl (Or.inl ⟨hidentifier, rfl⟩)
    | stem hfirst => exact Or.inl (Or.inr ⟨_, hfirst, rfl⟩)
    | noSubactionPaths hexpand hpaths => exact Or.inr ⟨hexpand, (if_pos hpaths).symm⟩
    | nothingApplies hexpand hpaths => exact Or.inr ⟨hexpand, (if_neg hpaths).symm⟩

/-! ## Rules of a sub-path -/

theorem mem_bindingIssues_iff {name e : String} :
    cause ∈ bindingIssues name e ↔ Misbinds name e cause := by
  unfold bindingIssues
  constructor
  · intro h
    by_cases hidentifier : Text.isIdentifier e = true
    · cases hactual : Direction.ofEnumerator? e with
      | none =>
        obtain rfl : cause = .foreignEnumerator e name := by simpa [hidentifier, hactual] using h
        exact .foreign hidentifier hactual
      | some actual =>
        by_cases hother : actual = .ofComponent name
        · simp [hidentifier, hactual, hother] at h
        · obtain rfl : cause = .wrongDirection e name actual (.ofComponent name) := by
            simpa [hidentifier, hactual, hother] using h
          exact .direction hidentifier hactual hother
    · have hidentifier' : Text.isIdentifier e = false := by simpa using hidentifier
      obtain rfl : cause = .bindingNoIdentifier e name := by simpa [hidentifier'] using h
      exact .noIdentifier hidentifier'
  · intro h
    cases h with
    | noIdentifier hidentifier => simp [hidentifier]
    | foreign hidentifier hactual => simp [hidentifier, hactual]
    | direction hidentifier hactual hother => simp [hidentifier, hactual, hother]

/-- Beside what is wrong with a binding there are only warnings about a component. -/
theorem error_mem_componentIssues_iff {name : String} (herror : cause.severity = .error) :
    cause ∈ componentIssues s name ↔ ∃ e, s.binding name = .bound e ∧ Misbinds name e cause := by
  have hkind : cause ∉ (if Direction.ofComponent name = .output && !s.isOutputKind then
      [.outputOnInputKind s.kind] else []) := by
    intro hmem
    split at hmem
    · obtain rfl := List.mem_singleton.mp hmem
      simp [Issue.Cause.severity] at herror
    · contradiction
  unfold componentIssues
  rw [List.mem_append, or_iff_right hkind]
  cases s.binding name with
  | undeclared =>
    have hentry : cause ≠ .noEntry name := by
      rintro rfl
      simp [Issue.Cause.severity] at herror
    simp [hentry]
  | unbound => simp
  | bound e => simp [mem_bindingIssues_iff]

theorem error_mem_subPathIssues_iff {subactionPaths : List String} (herror : cause.severity = .error) :
    cause ∈ subPathIssues subactionPaths s ↔
      ∃ name ∈ s.components, ∃ e, s.binding name = .bound e ∧ Misbinds name e cause := by
  have hside : cause ∉ sideIssues subactionPaths s := fun hmem =>
    harmless_sideIssues subactionPaths s cause hmem herror
  have hstray : cause ∉ strayIssues s := fun hmem => harmless_strayIssues s cause hmem herror
  unfold subPathIssues
  rw [List.mem_append, List.mem_append, or_iff_right hside, or_iff_left hstray, List.mem_flatMap]
  exact exists_congr fun name => and_congr_right fun _ => error_mem_componentIssues_iff herror

/-! ## Capacities -/

/-- The number of paths is told by the name of the component. -/
theorem length_paths_eq_of_name_eq {c c' : Component} (h : c.name = c'.name) :
    c.paths.length = c'.paths.length := by
  unfold Component.paths
  rw [h]
  split <;> rfl

/-- A component that is passed over has the sub-path and the name of one that has been reported. -/
theorem mem_capacityIssues_iff {seen : List (String × String)} {cs : List Component} {path : String} :
    (∃ s, (s, cause) ∈ capacityIssues capacity seen cs ∧ s.path = path) ↔
      ∃ c ∈ cs, c.subPath.path = path ∧ (path, c.name) ∉ seen ∧ capacity ≤ c.paths.length ∧
        cause = .tooManyPaths c.name c.paths.length capacity := by
  induction cs generalizing seen with
  | nil => simp [capacityIssues]
  | cons c cs ih =>
    rw [capacityIssues, List.exists_mem_cons_iff]
    by_cases hreport : capacity ≤ c.paths.length ∧ (c.subPath.path, c.name) ∉ seen
    · have hreport' : (decide (capacity ≤ c.paths.length)
          && !seen.contains (c.subPath.path, c.name)) = true := by simpa using hreport
      have hsplit : (∃ s, (s, cause) ∈ (c.subPath, .tooManyPaths c.name c.paths.length capacity)
            :: capacityIssues capacity ((c.subPath.path, c.name) :: seen) cs ∧ s.path = path) ↔
          (cause = .tooManyPaths c.name c.paths.length capacity ∧ c.subPath.path = path) ∨
            ∃ s, (s, cause) ∈ capacityIssues capacity ((c.subPath.path, c.name) :: seen) cs ∧
              s.path = path := by
        simp only [List.mem_cons, Prod.mk.injEq, or_and_right, exists_or, and_assoc, exists_eq_left]
      rw [if_pos hreport', hsplit, ih]
      constructor
      · rintro (⟨hcause, rfl⟩ | ⟨c', hc', hpath, hnot, hlong, hcause⟩)
        · exact Or.inl ⟨rfl, hreport.2, hreport.1, hcause⟩
        · exact Or.inr ⟨c', hc', hpath, fun h => hnot (List.mem_cons_of_mem _ h), hlong, hcause⟩
      · rintro (⟨rfl, -, -, hcause⟩ | ⟨c', hc', hpath, hnot, hlong, hcause⟩)
        · exact Or.inl ⟨hcause, rfl⟩
        · -- A later component with the same sub-path and name says the same as this one.
          by_cases hkey : (path, c'.name) = (c.subPath.path, c.name)
          · obtain ⟨hpath', hname⟩ := Prod.mk.inj hkey
            refine Or.inl ⟨?_, hpath'.symm⟩
            rw [hcause, hname, length_paths_eq_of_name_eq hname]
          · exact Or.inr ⟨c', hc', hpath, by simp [hkey, hnot], hlong, hcause⟩
    · have hreport' : ¬(decide (capacity ≤ c.paths.length)
          && !seen.contains (c.subPath.path, c.name)) = true := by simpa using hreport
      rw [if_neg hreport', ih, or_iff_right]
      rintro ⟨rfl, hnot, hlong, -⟩
      exact hreport ⟨hlong, hnot⟩

/-! ## Issues with their places -/

section Placed

variable {profile : ProfileName} {subPath : Option String}

/-- The issues about the profile as a whole, with the place that they are given. -/
theorem mem_placed_ownIssues_iff : (⟨profile, subPath, cause⟩ : Issue) ∈
    (deviceIssues p ++ stemIssues (heldBy before) p ++ emptinessIssues p).map (⟨p.name, none, ·⟩) ↔
      profile = p.name ∧ subPath = none ∧ Breaks capacity before p none cause := by
  rw [← mem_ownIssues_iff]
  simp only [List.mem_map, Issue.mk.injEq]
  constructor
  · rintro ⟨_, hmem, rfl, rfl, rfl⟩
    exact ⟨rfl, rfl, hmem⟩
  · rintro ⟨rfl, rfl, hmem⟩
    exact ⟨cause, hmem, rfl, rfl, rfl⟩

/-- The same for the errors about its sub-paths. -/
theorem mem_placed_subPathIssues_iff (hseverity : cause.severity = .error) :
    (⟨profile, subPath, cause⟩ : Issue) ∈
        p.subPaths.flatMap (fun s => (subPathIssues p.subactionPaths s).map (⟨p.name, some s.path, ·⟩)) ↔
      profile = p.name ∧ ∃ s ∈ p.subPaths, subPath = some s.path ∧
        ∃ name ∈ s.components, ∃ e, s.binding name = .bound e ∧ Misbinds name e cause := by
  simp only [List.mem_flatMap, List.mem_map, Issue.mk.injEq]
  constructor
  · rintro ⟨s, hs, _, hmem, rfl, rfl, rfl⟩
    exact ⟨rfl, s, hs, rfl, (error_mem_subPathIssues_iff hseverity).mp hmem⟩
  · rintro ⟨rfl, s, hs, rfl, hmem⟩
    exact ⟨s, hs, cause, (error_mem_subPathIssues_iff hseverity).mpr hmem, rfl, rfl, rfl⟩

/-- The same for the capacity of what it expands to. -/
theorem mem_placed_capacityIssues_iff : (⟨profile, subPath, cause⟩ : Issue) ∈
    (capacityIssues capacity [] p.expand).map (fun found => ⟨p.name, some found.1.path, found.2⟩) ↔
      profile = p.name ∧ ∃ c ∈ p.expand, subPath = some c.subPath.path ∧
        capacity ≤ c.paths.length ∧ cause = .tooManyPaths c.name c.paths.length capacity := by
  simp only [List.mem_map, Issue.mk.injEq]
  constructor
  · rintro ⟨⟨s, _⟩, hmem, rfl, rfl, rfl⟩
    obtain ⟨c, hc, hpath, -, hlong, hcause⟩ := mem_capacityIssues_iff.mp ⟨s, hmem, rfl⟩
    exact ⟨rfl, c, hc, by rw [hpath], hlong, hcause⟩
  · rintro ⟨rfl, c, hc, rfl, hlong, hcause⟩
    obtain ⟨s, hmem, hpath⟩ := mem_capacityIssues_iff.mpr ⟨c, hc, rfl, List.not_mem_nil, hlong, hcause⟩
    exact ⟨(s, cause), hmem, rfl, by rw [hpath], rfl⟩

end Placed

theorem error_mem_profileIssues_iff {i : Issue} (herror : i.isError = true) :
    i ∈ profileIssues capacity (heldBy before) p ↔
      ∃ s, Breaks capacity before p s i.cause ∧ i.profile = p.name ∧ i.subPath = s.map SubPath.path := by
  have hseverity : i.cause.severity = .error := of_decide_eq_true herror
  obtain ⟨profile, subPath, cause⟩ := i
  unfold profileIssues
  rw [List.mem_append, List.mem_append, mem_placed_ownIssues_iff, mem_placed_subPathIssues_iff hseverity,
    mem_placed_capacityIssues_iff]
  constructor
  · rintro ((⟨hprofile, rfl, hbreaks⟩ | ⟨hprofile, s, hs, rfl, name, hname, e, hbound, hcause⟩)
      | ⟨hprofile, c, hc, rfl, hlong, rfl⟩)
    · exact ⟨none, hbreaks, hprofile, rfl⟩
    · exact ⟨some s, .binding hs hname hbound hcause, hprofile, rfl⟩
    · exact ⟨some c.subPath, .capacity hc hlong, hprofile, rfl⟩
  · rintro ⟨s, hbreaks, hprofile, rfl⟩
    cases hbreaks with
    | binding hs hname hbound hcause =>
      exact Or.inl (Or.inr ⟨hprofile, _, hs, rfl, _, hname, _, hbound, hcause⟩)
    | capacity hc hlong => exact Or.inr ⟨hprofile, _, hc, rfl, hlong, rfl⟩
    | device h => exact Or.inl (Or.inl ⟨hprofile, rfl, .device h⟩)
    | stem h => exact Or.inl (Or.inl ⟨hprofile, rfl, .stem h⟩)
    | noSubactionPaths h h' => exact Or.inl (Or.inl ⟨hprofile, rfl, .noSubactionPaths h h'⟩)
    | nothingApplies h h' => exact Or.inl (Or.inl ⟨hprofile, rfl, .nothingApplies h h'⟩)

/-! ## Documents -/

theorem mem_issuesFrom_iff {profiles : List Profile} {i : Issue} :
    i ∈ issuesFrom capacity (heldBy before) profiles ↔
      ∃ front p back, profiles = front ++ p :: back ∧
        i ∈ profileIssues capacity (heldBy (before ++ front)) p := by
  induction profiles generalizing before with
  | nil => simp [issuesFrom]
  | cons p rest ih =>
    rw [issuesFrom, ← heldBy_concat, List.mem_append, ih]
    constructor
    · rintro (h | ⟨front, q, back, rfl, h⟩)
      · exact ⟨[], p, rest, rfl, by simpa using h⟩
      · exact ⟨p :: front, q, back, rfl, by simpa using h⟩
    · rintro ⟨front, q, back, heq, h⟩
      cases front with
      | nil =>
        obtain ⟨rfl, rfl⟩ := List.cons.inj heq
        exact Or.inl (by simpa using h)
      | cons r front =>
        obtain ⟨rfl, rfl⟩ := List.cons.inj heq
        exact Or.inr ⟨front, q, back, rfl, by simpa using h⟩

/-- An issue of a document is one of a profile, as the profiles in front of it hold the stems. -/
theorem mem_issues_iff_exists {d : Document} {i : Issue} :
    i ∈ issues d capacity ↔
      ∃ before p after, d.profiles = before ++ p :: after ∧ i ∈ profileIssues capacity (heldBy before) p := by
  rw [issues_eq]
  exact mem_issuesFrom_iff

/-- The errors of a document are the issues that blame rightly. -/
theorem mem_issues_iff {d : Document} {i : Issue} :
    (i ∈ issues d capacity ∧ i.isError = true) ↔ Blamed capacity d i := by
  constructor
  · rintro ⟨hmem, herror⟩
    obtain ⟨before, p, after, hd, h⟩ := mem_issues_iff_exists.mp hmem
    obtain ⟨s, hs⟩ := (error_mem_profileIssues_iff herror).mp h
    exact ⟨before, p, after, s, hd, hs⟩
  · rintro ⟨before, p, after, s, hd, hbreaks, hplace⟩
    have herror : i.isError = true := by simp [Issue.isError, Issue.severity, hbreaks.severity]
    refine ⟨mem_issues_iff_exists.mpr ⟨before, p, after, hd, ?_⟩, herror⟩
    exact (error_mem_profileIssues_iff herror).mpr ⟨s, hbreaks, hplace⟩

/-- A document has no errors exactly if it is sound. Each error names a profile of the document, and with it
perhaps a sub-path, that break a rule; whatever breaks a rule is named by an error. -/
theorem errors_sound_and_complete (d : Document) (capacity : Nat) :
    ((∀ i ∈ issues d capacity, i.isError = false) ↔ SoundDocument capacity d) ∧
      ∀ i, (i ∈ issues d capacity ∧ i.isError = true) ↔ Blamed capacity d i := by
  refine ⟨?_, fun i => mem_issues_iff⟩
  rw [← hasErrors_eq_false_iff]
  simp [hasErrors]

end ProfileBindings.Check
