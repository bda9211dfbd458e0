import ProfileBindings.Command.Arguments

/-!
# The program

Main definitions: `Request.run`, `Invocation.run`, the exit code of what is asked for.
-/

namespace ProfileBindings.Command

variable {m : Type → Type} [Monad m] [Host m]

/-- Run a command under a configuration. -/
def Request.run (request : Request) (config : Config) : Action m Nat :=
  match request with
  | .generate request => Command.generate request config
  | .validate request => Command.validate request config
  | .list request => Command.list request config

/-- Load the configuration and run the command under it. -/
def Invocation.perform (invocation : Invocation) : Action m Nat := do
  let config ← loadConfig invocation.config
  invocation.request.run config

/-- The exit code of what is asked for: that of the command, or 1 if it fails. -/
def Invocation.run (invocation : Invocation) : m Nat := do
  Host.record .started
  match ← invocation.perform.run with
  | .ok code => return code
  | .error failure =>
    Host.record (.failed failure.message)
    return 1

/-- What the program says about its version. -/
def versionLine : String := "xrbind 0.1.0"

/-- What the program says about its use. -/
def usageLines : List String := [
  "Usage: xrbind [-v...] [--config FILE] COMMAND",
  "",
  "Commands:",
  "  generate BINDINGS OUTPUT... [--check]   write the generated files of a bindings document",
  "  validate BINDINGS [--strict]            check a bindings document",
  "  list BINDINGS [--paths] [--json]        list the profiles of a bindings document",
  "",
  "Every command takes --enum-header HEADER and --schema-dir DIR."]

end ProfileBindings.Command
