import ProfileBindings.Profile.Component

/-!
# Issues of a document

What can be wrong with a document whose shape is right. An error keeps it from being generated; a warning
does not.

Main definitions: `Issue.Cause`, `Issue`, `Issue.severity`, `Issue.message`.
-/

namespace ProfileBindings

/-- How much an issue matters. -/
inductive Severity where
  | warning
  | error
deriving DecidableEq, Repr

/-- The word for a severity. -/
def Severity.word : Severity → String
  | warning => "warning"
  | error => "error"

/-- What is wrong. -/
inductive Issue.Cause where
  | deviceNoIdentifier (device : String)
  | stemTaken (stem : String) (first : ProfileName)
  | noSubactionPaths
  | nothingApplies
  | sideNeverMatches (side : String)
  | outputOnInputKind (kind : String)
  | noEntry (component : String)
  | bindingNoIdentifier (enumerator component : String)
  | wrongDirection (enumerator component : String) (actual expected : Direction)
  | foreignEnumerator (enumerator component : String)
  | strayEntry (component : String)
  | tooManyPaths (component : String) (count capacity : Nat)
deriving DecidableEq

/-- An issue, with the profile and, if it concerns one, the sub-path. -/
structure Issue where
  profile : ProfileName
  subPath : Option String
  cause : Issue.Cause
deriving DecidableEq

namespace Issue

/-- How much a cause matters. -/
def Cause.severity : Cause → Severity
  | deviceNoIdentifier _ => .error
  | stemTaken _ _ => .error
  | noSubactionPaths => .error
  | nothingApplies => .error
  | sideNeverMatches _ => .warning
  | outputOnInputKind _ => .warning
  | noEntry _ => .warning
  | bindingNoIdentifier _ _ => .error
  | wrongDirection _ _ _ _ => .error
  | foreignEnumerator _ _ => .error
  | strayEntry _ => .warning
  | tooManyPaths _ _ _ => .error

/-- A cause in words. -/
def Cause.message : Cause → String
  | deviceNoIdentifier device => "monado_device '" ++ device ++ "' is not a C identifier"
  | stemTaken stem first =>
    "verify function stem '" ++ stem ++ "' is already used by '" ++ first.path ++ "'"
  | noSubactionPaths => "no subaction paths declared; the profile expands to no bindings"
  | nothingApplies =>
    "no sub-path applies to any subaction path; the profile expands to no bindings"
  | sideNeverMatches side =>
    "side '" ++ side ++ "' matches no subaction path; the sub-path is never expanded"
  | outputOnInputKind kind =>
    "haptic component on sub-path of type '" ++ kind
      ++ "'; outputs are expected on 'vibration' sub-paths"
  | noEntry component => "component '" ++ component ++ "' has no monado_bindings entry"
  | bindingNoIdentifier enumerator component =>
    "binding '" ++ enumerator ++ "' for '" ++ component ++ "' is not a C identifier"
  | wrongDirection enumerator component actual expected =>
    "binding '" ++ enumerator ++ "' for '" ++ component ++ "' is an " ++ actual.word
      ++ " enumerator but the component is an " ++ expected.word
  | foreignEnumerator enumerator component =>
    "binding '" ++ enumerator ++ "' for '" ++ component
      ++ "' is neither an XRT_INPUT_ nor an XRT_OUTPUT_ enumerator"
  | strayEntry component =>
    "monado_bindings entry '" ++ component ++ "' does not match any declared component"
  | tooManyPaths component count capacity =>
    "component '" ++ component ++ "' expands to " ++ toString count
      ++ " paths; binding templates hold " ++ toString (capacity - 1) ++ " plus NULL"

/-- How much the issue matters. -/
def severity (i : Issue) : Severity := i.cause.severity

/-- The issue keeps the document from being generated. -/
def isError (i : Issue) : Bool := i.severity = .error

/-- The issue with its severity and its place. -/
def message (i : Issue) : String :=
  let place := match i.subPath with
    | none => i.profile.path
    | some subPath => i.profile.path ++ " " ++ subPath
  i.severity.word ++ ": " ++ place ++ ": " ++ i.cause.message

end Issue

end ProfileBindings
