import Mathlib.Data.List.Nodup
import ProfileBindings.Proofs.Check.Blame
import ProfileBindings.Proofs.Repeats
import ProfileBindings.Proofs.Sorted.Table

/-!
# Components with too many paths

A profile is expanded under each of its subaction paths, so that what a sub-path declares once is met many
times over. What has too many paths is reported where it is first met, and never again.

* `Component.declaration` : the sub-path and the name that a component goes back to;
* `overlong` : the declarations of a profile that have too many paths;
* `overlongIssue` : what is said about one of them.

Main statements:
* `capacityIssues_eq_map` : the walk over the components reports each declaration once, in the order in which
  they are first met;
* `overlong_reported_once` : the issues of a profile end with these reports, and have no other of the kind.
-/

namespace ProfileBindings

namespace Component

/-- The sub-path and the name that a component goes back to, whatever it is expanded under. -/
def declaration (c : Component) : SubPath × String := (c.subPath, c.name)

/-- The number of paths of a component of some name. -/
def pathsNeeded (name : String) : Nat := if name = "position" then 3 else 2

theorem length_paths (c : Component) : c.paths.length = pathsNeeded c.name := by
  unfold paths pathsNeeded
  split <;> rfl

end Component

namespace Check

variable {capacity : Nat} {p : Profile} {cs : List Component} {seen : List (String × String)}

/-- The declarations that have too many paths, each where it is met. -/
def overlongMet (capacity : Nat) (cs : List Component) : List (SubPath × String) :=
  (cs.map Component.declaration).filter fun o => capacity ≤ Component.pathsNeeded o.2

/-- The declarations of a profile that have too many paths, in the order in which they are first met. -/
def overlong (capacity : Nat) (p : Profile) : List (SubPath × String) := (overlongMet capacity p.expand).eraseDups

/-! ## The walk over the components -/

/-- The declarations with too many paths that have not been reported. -/
def unreported (capacity : Nat) (seen : List (String × String)) (cs : List Component) :
    List (SubPath × String) :=
  (overlongMet capacity cs).filter fun o => !seen.contains (o.1.path, o.2)

/-- What has been reported is told by path and name. Where no two sub-paths have one path this leaves out the
one declaration only. -/
theorem unreported_cons_seen {c : Component}
    (hpaths : ∀ c' ∈ cs, c'.subPath.path = c.subPath.path → c'.subPath = c.subPath) :
    unreported capacity ((c.subPath.path, c.name) :: seen) cs =
      (unreported capacity seen cs).filter fun o => !o == c.declaration := by
  unfold unreported
  rw [List.filter_filter]
  refine List.filter_congr fun o ho => ?_
  obtain ⟨c', hc', rfl⟩ := List.mem_map.mp (List.mem_of_mem_filter ho)
  have hkey : (c'.declaration.1.path, c'.declaration.2) = (c.subPath.path, c.name) ↔
      c'.declaration = c.declaration := by
    simp only [Component.declaration, Prod.mk.injEq]
    exact and_congr_left fun _ => ⟨hpaths c' hc', congrArg SubPath.path⟩
  rw [List.contains_cons, Bool.not_or]
  congr 1
  rw [Bool.not_inj_iff, Bool.eq_iff_iff, beq_iff_eq, beq_iff_eq]
  exact hkey

theorem unreported_cons (c : Component) :
    unreported capacity seen (c :: cs) =
      if capacity ≤ Component.pathsNeeded c.name && !seen.contains (c.subPath.path, c.name) then
        c.declaration :: unreported capacity seen cs
      else unreported capacity seen cs := by
  unfold unreported overlongMet
  rw [List.map_cons, List.filter_filter, List.filter_filter, List.filter_cons, Bool.and_comm]
  rfl

/-- The walk reports what has not been reported, each declaration where it is first met. -/
theorem capacityIssues_eq_map
    (hpaths : ∀ c ∈ cs, ∀ c' ∈ cs, c'.subPath.path = c.subPath.path → c'.subPath = c.subPath) :
    capacityIssues capacity seen cs = (unreported capacity seen cs).eraseDups.map fun o =>
      (o.1, .tooManyPaths o.2 (Component.pathsNeeded o.2) capacity) := by
  induction cs generalizing seen with
  | nil => rfl
  | cons c cs ih =>
    have hfirst : ∀ c' ∈ cs, c'.subPath.path = c.subPath.path → c'.subPath = c.subPath :=
      fun c' hc' => hpaths c List.mem_cons_self c' (List.mem_cons_of_mem _ hc')
    have hrest : ∀ c ∈ cs, ∀ c' ∈ cs, c'.subPath.path = c.subPath.path → c'.subPath = c.subPath :=
      fun c hc c' hc' => hpaths c (List.mem_cons_of_mem _ hc) c' (List.mem_cons_of_mem _ hc')
    rw [capacityIssues, unreported_cons, Component.length_paths]
    split
    · -- The component is reported, and its declaration is passed over from here on.
      rw [ih hrest, List.eraseDups_cons, List.map_cons, unreported_cons_seen hfirst]
      rfl
    · exact ih hrest

/-- At the beginning of a profile nothing has been reported. -/
theorem capacityIssues_expand (hpaths : (p.subPaths.map SubPath.path).Nodup) :
    capacityIssues capacity [] p.expand = (overlong capacity p).map fun o =>
      (o.1, .tooManyPaths o.2 (Component.pathsNeeded o.2) capacity) := by
  have hsubPath : ∀ c ∈ p.expand, c.subPath ∈ p.subPaths := fun c hc => (Profile.mem_expand.mp hc).2.1
  have hnone : unreported capacity [] p.expand = overlongMet capacity p.expand := by simp [unreported]
  rw [capacityIssues_eq_map, hnone, overlong]
  intro c hc c' hc' hpath
  exact List.inj_on_of_nodup_map hpaths (hsubPath c' hc') (hsubPath c hc) hpath

/-! ## Issues of a profile -/

/-- The cause is that there are too many paths. -/
def isTooManyPaths : Issue.Cause → Bool
  | .tooManyPaths _ _ _ => true
  | _ => false

/-- What is said about a declaration with too many paths. -/
def overlongIssue (capacity : Nat) (p : Profile) (o : SubPath × String) : Issue :=
  ⟨p.name, some o.1.path, .tooManyPaths o.2 (Component.pathsNeeded o.2) capacity⟩

/-- The number of paths that there is room for in front of the terminator. -/
def room : Nat → Nat
  | 0 => 0
  | capacity + 1 => capacity

/-- What is said tells how many paths there are, and how many there is room for. -/
theorem message_overlongIssue (c : Component) :
    (overlongIssue capacity p c.declaration).cause.message =
      "component '" ++ c.name ++ "' expands to " ++ toString c.paths.length
        ++ " paths; binding templates hold " ++ toString (room capacity) ++ " plus NULL" := by
  rw [Component.length_paths]
  cases capacity <;> rfl

theorem placed_capacityIssues_eq (hpaths : (p.subPaths.map SubPath.path).Nodup) :
    (capacityIssues capacity [] p.expand).map (fun found => ⟨p.name, some found.1.path, found.2⟩) =
      (overlong capacity p).map (overlongIssue capacity p) := by
  rw [capacityIssues_expand hpaths, List.map_map]
  rfl

/-- What is said about capacities comes last among the issues of a profile, and nothing is said of them before. -/
theorem profileIssues_eq_append (hpaths : (p.subPaths.map SubPath.path).Nodup) (before : List Profile) :
    ∃ others, profileIssues capacity (heldBy before) p =
        others ++ (overlong capacity p).map (overlongIssue capacity p) ∧
      ∀ i ∈ others, isTooManyPaths i.cause = false := by
  unfold profileIssues
  refine ⟨_, congrArg (_ ++ ·) (placed_capacityIssues_eq hpaths), ?_⟩
  rintro ⟨profile, subPath, cause⟩ hi
  rcases List.mem_append.mp hi with hown | hsubPath
  · have hbreaks : Breaks capacity before p none cause := (mem_placed_ownIssues_iff.mp hown).2.2
    cases hbreaks <;> rfl
  · cases cause with
    | tooManyPaths name count capacity =>
      -- An error about a sub-path by itself is about an enumerator.
      obtain ⟨-, s, -, -, name, -, e, -, hcause⟩ := (mem_placed_subPathIssues_iff rfl).mp hsubPath
      cases hcause
    | _ => rfl

theorem mem_overlong_iff {o : SubPath × String} :
    o ∈ overlong capacity p ↔ ∃ c ∈ p.expand, c.declaration = o ∧ capacity ≤ c.paths.length := by
  simp only [overlong, overlongMet, List.mem_eraseDups, List.mem_filter, List.mem_map, decide_eq_true_eq,
    Component.length_paths]
  constructor
  · rintro ⟨⟨c, hc, rfl⟩, hlong⟩
    exact ⟨c, hc, rfl, hlong⟩
  · rintro ⟨c, hc, rfl, hlong⟩
    exact ⟨⟨c, hc, rfl⟩, hlong⟩

/-- Leaving out what has room does not change which of the others comes first. -/
theorem pairwise_idxOf_overlong (capacity : Nat) (p : Profile) :
    (overlong capacity p).Pairwise fun x y =>
      (p.expand.map Component.declaration).idxOf x < (p.expand.map Component.declaration).idxOf y := by
  rw [overlong, overlongMet, eraseDups_filter]
  exact (pairwise_idxOf_eraseDups _).filter _

/-- What a profile declares with too many paths is reported once for each sub-path and name, in the order in which
they are first met among its components, and nothing else is reported. -/
theorem overlong_reported_once {p : Profile} (hpaths : (p.subPaths.map SubPath.path).Nodup) (capacity : Nat) :
    (overlong capacity p).Nodup ∧
    (∀ o, o ∈ overlong capacity p ↔ ∃ c ∈ p.expand, c.declaration = o ∧ capacity ≤ c.paths.length) ∧
    ((overlong capacity p).Pairwise fun x y =>
      (p.expand.map Component.declaration).idxOf x < (p.expand.map Component.declaration).idxOf y) ∧
    (capacityIssues capacity [] p.expand).map (fun found => ⟨p.name, some found.1.path, found.2⟩) =
      (overlong capacity p).map (overlongIssue capacity p) ∧
    (∀ before, ∃ others,
      profileIssues capacity (heldBy before) p =
          others ++ (overlong capacity p).map (overlongIssue capacity p) ∧
        ∀ i ∈ others, isTooManyPaths i.cause = false) ∧
    ∀ c : Component, (overlongIssue capacity p c.declaration).isError = true ∧
      (overlongIssue capacity p c.declaration).cause.message =
        "component '" ++ c.name ++ "' expands to " ++ toString c.paths.length
          ++ " paths; binding templates hold " ++ toString (room capacity) ++ " plus NULL" :=
  ⟨nodup_eraseDups _, fun _ => mem_overlong_iff, pairwise_idxOf_overlong capacity p,
    placed_capacityIssues_eq hpaths, profileIssues_eq_append hpaths, fun c => ⟨rfl, message_overlongIssue c⟩⟩

/-! ## A stick for both hands -/

/-- A stick that lists its position twice. -/
def stick : SubPath where
  path := "/input/thumbstick"
  kind := "joystick"
  localizedName := "Thumbstick"
  side := none
  components := ["click", "position", "position"]
  bindings := .ofList []

/-- A controller with a stick in each hand. -/
def sticks : Profile where
  name := ⟨["oculus", "touch_controller"], by decide, by decide⟩
  title := "Touch Controller"
  deviceType := "touch"
  device := "XRT_DEVICE_TOUCH_CONTROLLER"
  subactionPaths := ["/user/hand/left", "/user/hand/right"]
  subPaths := [stick]

/-- Four positions are reported once, and without any room each name is. -/
theorem stick_reported_once :
    (sticks.subPaths.map SubPath.path).Nodup ∧
      (capacityIssues 3 [] sticks.expand).map (fun found => ⟨sticks.name, some found.1.path, found.2⟩) =
        [overlongIssue 3 sticks (stick, "position")] ∧
      (capacityIssues 0 [] sticks.expand).map (fun found => ⟨sticks.name, some found.1.path, found.2⟩) =
        [overlongIssue 0 sticks (stick, "click"), overlongIssue 0 sticks (stick, "position")] := by
  have hpaths : (sticks.subPaths.map SubPath.path).Nodup := by decide
  obtain ⟨-, -, -, hthree, -⟩ := overlong_reported_once hpaths 3
  obtain ⟨-, -, -, hnone, -⟩ := overlong_reported_once hpaths 0
  exact ⟨hpaths, hthree.trans rfl, hnone.trans rfl⟩

end Check

end ProfileBindings
