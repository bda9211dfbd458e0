import ProfileBindings.Check.Issue

/-!
# Semantic checks

The rules of a document that concern its meaning: words that end up as identifiers are identifiers, no two
profiles share a function, every profile has components, an enumerator has the direction of its component,
and a component's paths fit beside the terminator of their array. What is declared but never used is worth
a warning.

Main definitions:
* `Check.bindingIssues`, `Check.componentIssues`, `Check.subPathIssues` : the rules of one sub-path;
* `Check.capacityIssues` : each component with too many paths, once;
* `Check.Holders` : which profile holds which stem;
* `Check.profileIssues` : the rules of one profile, given who holds the stems;
* `Check.issues` : all issues of a document.
-/

namespace ProfileBindings.Check

/-- What is wrong with an enumerator that a component is bound to. -/
def bindingIssues (component enumerator : String) : List Issue.Cause :=
  let expected := Direction.ofComponent component
  if !Text.isIdentifier enumerator then [.bindingNoIdentifier enumerator component]
  else match Direction.ofEnumerator? enumerator with
    | none => [.foreignEnumerator enumerator component]
    | some actual =>
      if actual = expected then [] else [.wrongDirection enumerator component actual expected]

/-- What is wrong with one component of a sub-path. -/
def componentIssues (s : SubPath) (component : String) : List Issue.Cause :=
  let kind :=
    if Direction.ofComponent component = .output && !s.isOutputKind then
      [.outputOnInputKind s.kind]
    else []
  kind ++ match s.binding component with
    | .undeclared => [.noEntry component]
    | .unbound => []
    | .bound enumerator => bindingIssues component enumerator

/-- A side that names none of the subaction paths. -/
def sideIssues (subactionPaths : List String) (s : SubPath) : List Issue.Cause :=
  match s.side with
  | none => []
  | some side => if subactionPaths.any s.appliesTo then [] else [.sideNeverMatches side]

/-- Entries for components that the sub-path does not have. -/
def strayIssues (s : SubPath) : List Issue.Cause :=
  (s.bindings.keys.toList.filter fun name => !s.components.contains name).map .strayEntry

/-- What is wrong with a sub-path. -/
def subPathIssues (subactionPaths : List String) (s : SubPath) : List Issue.Cause :=
  sideIssues subactionPaths s ++ s.components.flatMap (componentIssues s) ++ strayIssues s

/-- The device of a profile has to be an identifier. -/
def deviceIssues (p : Profile) : List Issue.Cause :=
  if Text.isIdentifier p.device then [] else [.deviceNoIdentifier p.device]

/-- The profiles that hold stems, each under its stem. -/
abbrev Holders := Sorted.Table String ProfileName

/-- The first profile with a stem keeps it. -/
def stemIssues (holders : Holders) (p : Profile) : List Issue.Cause :=
  match holders.get? p.name.stem with
  | none => []
  | some first => [.stemTaken p.name.stem first]

/-- Who holds the stems behind another profile. -/
def Holders.add (holders : Holders) (p : Profile) : Holders :=
  match holders.get? p.name.stem with
  | none => holders.insert p.name.stem p.name
  | some _ => holders

/-- A profile needs components. -/
def emptinessIssues (p : Profile) : List Issue.Cause :=
  if p.expand.isEmpty then
    [if p.subactionPaths.isEmpty then .noSubactionPaths else .nothingApplies]
  else []

/-- The components of a profile with too many paths: each pair of sub-path and name is reported where it
first occurs. One slot of the capacity is taken by the terminator. -/
def capacityIssues (capacity : Nat) (seen : List (String × String)) :
    List Component → List (SubPath × Issue.Cause)
  | [] => []
  | c :: rest =>
    let key := (c.subPath.path, c.name)
    if capacity ≤ c.paths.length && !seen.contains key then
      (c.subPath, .tooManyPaths c.name c.paths.length capacity)
        :: capacityIssues capacity (key :: seen) rest
    else capacityIssues capacity seen rest

/-- What is wrong with a profile, given who holds the stems. -/
def profileIssues (capacity : Nat) (holders : Holders) (p : Profile) : List Issue :=
  let ofProfile (cause : Issue.Cause) : Issue := ⟨p.name, none, cause⟩
  let ofSubPath (s : SubPath) (cause : Issue.Cause) : Issue := ⟨p.name, some s.path, cause⟩
  (deviceIssues p ++ stemIssues holders p ++ emptinessIssues p).map ofProfile
    ++ p.subPaths.flatMap (fun s => (subPathIssues p.subactionPaths s).map (ofSubPath s))
    ++ (capacityIssues capacity [] p.expand).map fun found => ofSubPath found.1 found.2

/-- The issues of a list of profiles, from the first one to the last. -/
def issuesFrom (capacity : Nat) (holders : Holders) : List Profile → List Issue
  | [] => []
  | p :: rest => profileIssues capacity holders p ++ issuesFrom capacity (holders.add p) rest

/-- The issues of a document in document order. The capacity is that of an array of paths, its terminator
included. -/
def issues (d : Document) (capacity : Nat) : List Issue := issuesFrom capacity .empty d.profiles

/-- Some issue is an error. -/
def hasErrors (issues : List Issue) : Bool := issues.any Issue.isError

end ProfileBindings.Check
