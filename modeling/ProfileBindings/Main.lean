import ProfileBindings.Command.Program

/-!
# The command line

The program on the files of the machine: lines are printed to standard output, the log goes to standard
error.
-/

namespace ProfileBindings

/-- The machine, for a session that is so talkative. -/
abbrev Terminal := ReaderT Nat IO

namespace Terminal

/-- The number of an error, which some calls give with its sign changed. -/
def number (code : UInt32) : UInt32 :=
  if code < 0 - code then code else 0 - code

/-- Why the machine refuses a file. -/
def reason : IO.Error → Files.Error
  | .noFileOrDirectory _ _ _ => .notFound
  | .permissionDenied _ code details => .other s!"{details} (os error {number code})"
  | .inappropriateType _ code details =>
    match number code with
    | 20 => .notDirectory
    | 21 => .isDirectory
    | other => .other s!"{details} (os error {other})"
  | .invalidArgument _ code details =>
    match number code with
    | 36 => .nameTooLong
    | other => .other s!"{details} (os error {other})"
  | e => .other (toString e)

/-- What comes of an access to a file. -/
def attempt {α : Type} (access : IO α) : Terminal (Except Files.Error α) := do
  match ← access.toBaseIO with
  | .ok value => return .ok value
  | .error e => return .error (reason e)

/-- The machine is a host. -/
instance : Host Terminal where
  readBytes path := attempt (IO.FS.readBinFile path)
  writeBytes path bytes := attempt (IO.FS.writeBinFile path bytes)
  record event := do if event.isShown (← read) then IO.eprintln event.line
  say line := IO.println line

end Terminal

end ProfileBindings

open ProfileBindings in
/-- Run the program. Arguments that cannot be understood give the exit code 2. -/
def main (arguments : List String) : IO UInt32 := do
  match Command.Invocation.read arguments with
  | .ok invocation =>
    let code ← (invocation.run : Terminal Nat).run invocation.verbosity
    return code.toUInt32
  | .error .version =>
    IO.println Command.versionLine
    return 0
  | .error .help =>
    Command.usageLines.forM fun line => IO.println line
    return 0
  | .error .misuse =>
    Command.usageLines.forM fun line => IO.eprintln line
    return 2
