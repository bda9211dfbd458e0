import Mathlib.Data.List.Basic
import Mathlib.Data.List.Induction
import ProfileBindings.Check.Semantics

/-!
# What a document without errors satisfies

Each rule of the semantic checks is an equivalence between having no error and a statement about what is
checked. Warnings do not count. Together they say what a document without errors is.

* `Harmless` : causes of which none is an error;
* `heldBy` : who holds the stems behind several profiles;
* `Enumerates` : an enumerator fits the component that it is bound to;
* `SoundProfile`, `SoundDocument` : what the rules ask for.

Main statements:
* `get?_heldBy` : each stem is held by the first profile that has it;
* `hasErrors_eq_false_iff` : a document has no errors exactly if it is sound.
-/

namespace ProfileBindings.Check

/-- None of the causes is an error. -/
def Harmless (causes : List Issue.Cause) : Prop := ∀ cause ∈ causes, cause.severity ≠ .error

/-- The text can be an enumerator that a component is bound to. -/
def Enumerates (enumerator component : String) : Prop :=
  Text.isIdentifier enumerator = true ∧
    Direction.ofEnumerator? enumerator = some (.ofComponent component)

/-- What the rules ask of a profile by itself. -/
structure SoundProfile (capacity : Nat) (p : Profile) : Prop where
  device : Text.isIdentifier p.device = true
  expands : p.expand ≠ []
  /-- Sub-paths that exist under no subaction path are bound by the rule too. -/
  bound : ∀ s ∈ p.subPaths, ∀ name ∈ s.components, ∀ e, s.binding name = .bound e → Enumerates e name
  fits : ∀ c ∈ p.expand, c.paths.length < capacity

/-- What the rules ask of a document. -/
structure SoundDocument (capacity : Nat) (d : Document) : Prop where
  profiles : ∀ p ∈ d.profiles, SoundProfile capacity p
  stems : d.profiles.Pairwise (·.name.stem ≠ ·.name.stem)

/-! ## Stems -/

section Stems

variable {holders : Holders} {before : List Profile} {p : Profile} {stem : String}

/-- Who holds the stems behind several profiles. -/
def heldBy (before : List Profile) : Holders := before.foldl Holders.add .empty

theorem heldBy_concat : heldBy (before ++ [p]) = (heldBy before).add p := by
  rw [heldBy, List.foldl_append]
  rfl

/-- Another profile gets its stem if nobody holds it, and all others keep theirs. -/
theorem get?_add :
    (holders.add p).get? stem = (holders.get? stem).or (if p.name.stem = stem then some p.name else none) := by
  unfold Holders.add
  cases hfirst : holders.get? p.name.stem with
  | none =>
    rw [Sorted.Table.get?_insert]
    by_cases hstem : p.name.stem = stem
    · simp [← hstem, hfirst]
    · simp [hstem]
  | some first =>
    by_cases hstem : p.name.stem = stem
    · simp [← hstem, hfirst]
    · simp [hstem]

/-- Each stem is held by the first profile that has it. -/
theorem get?_heldBy (before : List Profile) (stem : String) :
    (heldBy before).get? stem = (before.find? (·.name.stem == stem)).map Profile.name := by
  induction before using List.reverseRecOn with
  | nil => rfl
  | append_singleton before p ih =>
    rw [heldBy_concat, get?_add, ih, List.find?_append]
    cases before.find? (·.name.stem == stem) with
    | none => by_cases hstem : p.name.stem = stem <;> simp [hstem]
    | some first => rfl

/-- A profile is told who among those in front of it was the first with its stem. -/
theorem stemIssues_heldBy (before : List Profile) (p : Profile) :
    stemIssues (heldBy before) p =
      ((before.find? (·.name.stem == p.name.stem)).map fun first =>
        Issue.Cause.stemTaken p.name.stem first.name).toList := by
  unfold stemIssues
  rw [get?_heldBy]
  cases before.find? (·.name.stem == p.name.stem) <;> rfl

end Stems

/-! ## Rules of a sub-path -/

theorem harmless_append {a b : List Issue.Cause} : Harmless (a ++ b) ↔ Harmless a ∧ Harmless b :=
  List.forall_mem_append

theorem harmless_bindingIssues {component enumerator : String} :
    Harmless (bindingIssues component enumerator) ↔ Enumerates enumerator component := by
  unfold bindingIssues Enumerates
  by_cases hid : Text.isIdentifier enumerator = true
  · rw [hid]
    cases hdir : Direction.ofEnumerator? enumerator with
    | none => simp [Harmless, Issue.Cause.severity]
    | some actual =>
      by_cases heq : actual = .ofComponent component <;>
        simp [Harmless, Issue.Cause.severity, heq]
  · simp [hid, Harmless, Issue.Cause.severity]

theorem harmless_componentIssues {s : SubPath} {component : String} :
    Harmless (componentIssues s component) ↔
      ∀ e, s.binding component = .bound e → Enumerates e component := by
  -- An output on a sub-path of another kind is warned about, and no error.
  have hkind : Harmless (if Direction.ofComponent component = .output && !s.isOutputKind then
      [.outputOnInputKind s.kind] else []) := by
    split <;> simp [Harmless, Issue.Cause.severity]
  unfold componentIssues
  rw [harmless_append, and_iff_right hkind]
  cases s.binding component with
  | undeclared => simp [Harmless, Issue.Cause.severity]
  | unbound => simp [Harmless]
  | bound enumerator => simp [harmless_bindingIssues]

theorem harmless_sideIssues (subactionPaths : List String) (s : SubPath) :
    Harmless (sideIssues subactionPaths s) := by
  unfold sideIssues
  split
  · simp [Harmless]
  · split <;> simp [Harmless, Issue.Cause.severity]

theorem harmless_strayIssues (s : SubPath) : Harmless (strayIssues s) := by
  intro cause hcause
  obtain ⟨name, -, rfl⟩ := List.mem_map.mp hcause
  simp [Issue.Cause.severity]

theorem harmless_subPathIssues {subactionPaths : List String} {s : SubPath} :
    Harmless (subPathIssues subactionPaths s) ↔
      ∀ name ∈ s.components, ∀ e, s.binding name = .bound e → Enumerates e name := by
  have hflat : Harmless (s.components.flatMap (componentIssues s)) ↔
      ∀ name ∈ s.components, Harmless (componentIssues s name) := List.forall_mem_flatMap
  unfold subPathIssues
  rw [harmless_append, harmless_append, hflat]
  simp only [harmless_sideIssues, harmless_strayIssues, harmless_componentIssues, true_and, and_true]

/-! ## Rules of a profile -/

theorem harmless_deviceIssues {p : Profile} :
    Harmless (deviceIssues p) ↔ Text.isIdentifier p.device = true := by
  unfold deviceIssues
  split <;> simp [Harmless, Issue.Cause.severity, *]

theorem harmless_stemIssues {before : List Profile} {p : Profile} :
    Harmless (stemIssues (heldBy before) p) ↔ ∀ q ∈ before, q.name.stem ≠ p.name.stem := by
  rw [stemIssues_heldBy]
  cases hfirst : before.find? (·.name.stem == p.name.stem) with
  | none => simpa [Harmless] using hfirst
  | some first =>
    have hmem : first ∈ before := List.mem_of_find?_eq_some hfirst
    have hstem : first.name.stem = p.name.stem := by simpa using List.find?_some hfirst
    simp only [Harmless, Option.map_some, Option.toList_some, List.mem_singleton, forall_eq,
      Issue.Cause.severity, ne_eq, not_true_eq_false, false_iff]
    exact fun h => h first hmem hstem

theorem harmless_emptinessIssues {p : Profile} :
    Harmless (emptinessIssues p) ↔ p.expand ≠ [] := by
  unfold emptinessIssues
  by_cases hempty : p.expand = []
  · by_cases hpaths : p.subactionPaths.isEmpty <;>
      simp [hempty, hpaths, Harmless, Issue.Cause.severity]
  · simp [hempty, Harmless]

/-- A component that is passed over has been reported before. -/
theorem capacityIssues_eq_nil {capacity : Nat} {seen : List (String × String)} {cs : List Component} :
    capacityIssues capacity seen cs = [] ↔
      ∀ c ∈ cs, c.paths.length < capacity ∨ (c.subPath.path, c.name) ∈ seen := by
  induction cs with
  | nil => simp [capacityIssues]
  | cons c cs ih =>
    simp only [capacityIssues]
    split
    · next h =>
      -- Too long and not reported before: there is an issue, and this component is why.
      have h' : capacity ≤ c.paths.length ∧ (c.subPath.path, c.name) ∉ seen := by simpa using h
      have hnot : ¬(c.paths.length < capacity ∨ (c.subPath.path, c.name) ∈ seen) := by
        rintro (hlt | hmem)
        · omega
        · exact h'.2 hmem
      simp [hnot]
    · next h =>
      have h' : c.paths.length < capacity ∨ (c.subPath.path, c.name) ∈ seen := by
        by_contra hnot
        push Not at hnot
        exact h (by simpa using hnot)
      simp [ih, h']

theorem severity_of_mem_capacityIssues {capacity : Nat} {seen : List (String × String)}
    {cs : List Component} {found : SubPath × Issue.Cause}
    (h : found ∈ capacityIssues capacity seen cs) : found.2.severity = .error := by
  induction cs generalizing seen with
  | nil => simp [capacityIssues] at h
  | cons c cs ih =>
    simp only [capacityIssues] at h
    split at h
    · rcases List.mem_cons.mp h with rfl | hrest
      · rfl
      · exact ih hrest
    · exact ih h

theorem harmless_capacityIssues {capacity : Nat} {cs : List Component} :
    Harmless ((capacityIssues capacity [] cs).map Prod.snd) ↔ ∀ c ∈ cs, c.paths.length < capacity := by
  have hnil : capacityIssues capacity [] cs = [] ↔ ∀ c ∈ cs, c.paths.length < capacity := by
    rw [capacityIssues_eq_nil]
    simp
  rw [← hnil, List.eq_nil_iff_forall_not_mem]
  constructor
  · intro h found hmem
    exact h found.2 (List.mem_map_of_mem hmem) (severity_of_mem_capacityIssues hmem)
  · intro h cause hmem
    obtain ⟨found, hfound, rfl⟩ := List.mem_map.mp hmem
    exact absurd hfound (h found)

/-- The severity of an issue is that of its cause, wherever it is found. -/
theorem forall_not_isError_map {α : Type} {l : List α} {f : α → Issue} :
    (∀ i ∈ l.map f, i.isError = false) ↔ Harmless (l.map fun a => (f a).cause) := by
  simp only [Harmless, List.forall_mem_map, Issue.isError, Issue.severity]
  exact forall₂_congr fun a _ => decide_eq_false_iff_not

theorem profileIssues_without_error_iff {capacity : Nat} {before : List Profile} {p : Profile} :
    (∀ i ∈ profileIssues capacity (heldBy before) p, i.isError = false) ↔
      SoundProfile capacity p ∧ ∀ q ∈ before, q.name.stem ≠ p.name.stem := by
  unfold profileIssues
  simp only [List.forall_mem_append, List.forall_mem_flatMap, forall_not_isError_map, List.map_id',
    harmless_append, harmless_deviceIssues, harmless_stemIssues, harmless_emptinessIssues,
    harmless_subPathIssues, harmless_capacityIssues]
  constructor
  · rintro ⟨⟨⟨⟨hdevice, hstem⟩, hexpand⟩, hbound⟩, hfits⟩
    exact ⟨⟨hdevice, hexpand, hbound, hfits⟩, hstem⟩
  · rintro ⟨hsound, hstem⟩
    exact ⟨⟨⟨⟨hsound.device, hstem⟩, hsound.expands⟩, hsound.bound⟩, hsound.fits⟩

/-! ## Documents -/

theorem issuesFrom_without_error_iff {capacity : Nat} {before profiles : List Profile} :
    (∀ i ∈ issuesFrom capacity (heldBy before) profiles, i.isError = false) ↔
      (∀ p ∈ profiles, SoundProfile capacity p ∧ ∀ q ∈ before, q.name.stem ≠ p.name.stem) ∧
        profiles.Pairwise (·.name.stem ≠ ·.name.stem) := by
  -- The stems in front grow with each profile, and become pairs in the end.
  induction profiles generalizing before with
  | nil => simp [issuesFrom]
  | cons p rest ih =>
    rw [issuesFrom, ← heldBy_concat, List.forall_mem_append, profileIssues_without_error_iff, ih,
      List.forall_mem_cons, List.pairwise_cons]
    constructor
    · rintro ⟨hp, hrest, hpairs⟩
      refine ⟨⟨hp, fun q hq => ⟨(hrest q hq).1, fun r hr => ?_⟩⟩, fun q hq => ?_, hpairs⟩
      · exact (hrest q hq).2 r (List.mem_append_left _ hr)
      · exact (hrest q hq).2 p (by simp)
    · rintro ⟨⟨hp, hrest⟩, hfirst, hpairs⟩
      refine ⟨hp, fun q hq => ⟨(hrest q hq).1, fun r hr => ?_⟩, hpairs⟩
      rcases List.mem_append.mp hr with hr | hr
      · exact (hrest q hq).2 r hr
      · obtain rfl : r = p := by simpa using hr
        exact hfirst q hq

/-- A document is read from its first profile on, when nobody holds a stem. -/
theorem issues_eq (d : Document) (capacity : Nat) :
    issues d capacity = issuesFrom capacity (heldBy []) d.profiles := rfl

/-- A document has no errors exactly if it is sound. -/
theorem hasErrors_eq_false_iff {d : Document} {capacity : Nat} :
    hasErrors (issues d capacity) = false ↔ SoundDocument capacity d := by
  have hall : hasErrors (issues d capacity) = false ↔
      ∀ i ∈ issuesFrom capacity (heldBy []) d.profiles, i.isError = false := by
    simp [hasErrors, issues_eq]
  rw [hall, issuesFrom_without_error_iff]
  simp only [List.not_mem_nil, false_implies, implies_true, and_true]
  exact ⟨fun h => ⟨h.1, h.2⟩, fun h => ⟨h.profiles, h.stems⟩⟩

/-! ## Components of sound profiles -/

/-- An enumerator of a component fits the component. -/
theorem SoundProfile.enumerates {capacity : Nat} {p : Profile} (h : SoundProfile capacity p)
    {c : Component} (hc : c ∈ p.expand) {e : String} (he : c.binding = .bound e) :
    Enumerates e c.name := by
  obtain ⟨-, hsub, -, hname⟩ := Profile.mem_expand.mp hc
  exact h.bound c.subPath hsub c.name hname e he

end ProfileBindings.Check
