import ProfileBindings.Command.Check

/-!
# The commands that generate and validate

A document without errors is generated into its outputs, or the outputs are compared with what would be
generated. Nothing is touched if there is an error. Validating prints all findings, and then a verdict.

Main definitions: `GenerateRequest`, `generate`, `ValidateRequest`, `validate`; the commands give their exit
codes.
-/

namespace ProfileBindings.Command

variable {m : Type → Type} [Monad m] [Host m]

/-! ## Generating -/

/-- What to generate. -/
structure GenerateRequest where
  input : Input
  outputs : List String
  /-- The outputs are only compared. -/
  checkOnly : Bool
deriving DecidableEq, Repr

/-- How the outputs are treated. -/
def GenerateRequest.mode (r : GenerateRequest) : Output.Mode := if r.checkOnly then .check else .write

/-- The line about an output. -/
def reportLine (r : Output.Report) : String :=
  match r.status with
  | .written => "OK: wrote " ++ r.path
  | .unchanged => "OK: " ++ r.path ++ " is up to date"
  | .stale => "FAIL: " ++ r.path ++ " is missing or out of date"
  | .skipped => "SKIP: " ++ r.path ++ " is not a generated_bindings output"

/-- Generate. The exit code is 1 if an output was found stale. -/
def generate (r : GenerateRequest) (config : Config) : Action m Nat := do
  let checked ← check r.input config
  report checked
  if checked.errorCount ≠ 0 then throw (.refused r.input.document checked.errorCount)
  let reports ← ExceptT.adapt Failure.output (Output.updateAll r.mode config checked.model r.outputs)
  reports.forM fun found => Host.say (reportLine found)
  return if reports.any (·.status = .stale) then 1 else 0

/-! ## Validating -/

/-- What to validate. -/
structure ValidateRequest where
  input : Input
  /-- A warning is as bad as an error. -/
  strict : Bool
deriving DecidableEq, Repr

/-- The findings pass. -/
def Checked.passes (c : Checked) (strict : Bool) : Bool :=
  c.errorCount = 0 && !(strict && c.warningCount ≠ 0)

/-- The lines about findings. -/
def findingLines (c : Checked) : List String :=
  c.issues.map (fun issue => "  " ++ issue.message)
    ++ c.unknown.map (fun unknown => "  error: " ++ unknown.message)

/-- The last line. -/
def verdictLine (path : String) (c : Checked) (passes : Bool) : String :=
  if passes then
    "OK: " ++ path ++ ": " ++ toString c.model.profiles.length ++ " profile(s), "
      ++ toString (c.model.profiles.flatMap Profile.expand).length ++ " binding(s), "
      ++ toString c.warningCount ++ " warning(s)"
  else
    "FAIL: " ++ path ++ ": " ++ toString c.errorCount ++ " error(s), " ++ toString c.warningCount
      ++ " warning(s)"

/-- Validate. The exit code is 1 if the findings do not pass. -/
def validate (r : ValidateRequest) (config : Config) : Action m Nat := do
  let checked ← check r.input config
  (findingLines checked).forM Host.say
  let passes := checked.passes r.strict
  Host.say (verdictLine r.input.document checked passes)
  return if passes then 0 else 1

end ProfileBindings.Command
