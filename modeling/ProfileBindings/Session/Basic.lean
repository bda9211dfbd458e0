import ProfileBindings.Files.Tree
import ProfileBindings.Session.Event

/-!
# Hosts and sessions

A host is what a command runs on: it holds files, keeps a log and prints lines. Commands ask for nothing
else, so that one definition of a command runs on the files of a machine and on a tree that is a value.
A session is a host that is a value: a tree of files, the lines printed so far and the events so far.

Main definitions: `Host`, `Host.readText`, `Session`, `Session.log`, `Session.output`.
-/

namespace ProfileBindings

/-- What a command runs on. -/
class Host (m : Type → Type) where
  /-- The bytes of a file. -/
  readBytes : String → m (Except Files.Error ByteArray)
  /-- Write a file. -/
  writeBytes : String → ByteArray → m (Except Files.Error Unit)
  /-- Put an event into the log. -/
  record : Event → m Unit
  /-- Print a line. -/
  say : String → m Unit

namespace Host

variable {m : Type → Type} [Monad m] [Host m]

/-- What may fail runs on the same host. -/
instance {ε : Type} : Host (ExceptT ε m) where
  readBytes path := ExceptT.lift (readBytes path)
  writeBytes path bytes := ExceptT.lift (writeBytes path bytes)
  record event := ExceptT.lift (record event)
  say line := ExceptT.lift (say line)

/-- The text of a file; what is not UTF-8 is no text. -/
def textOf (bytes : ByteArray) : Except Files.Error String :=
  match String.fromUTF8? bytes with
  | some text => .ok text
  | none => .error .notText

/-- Read a file as text. -/
def readText (path : String) : m (Except Files.Error String) := do
  return (← readBytes path).bind textOf

end Host

/-! ## Sessions -/

/-- Files, printed lines and events. -/
structure Session where
  files : Files.Tree
  printed : List String
  events : List Event

namespace Session

/-- A session that has only begun. -/
def start (files : Files.Tree) : Session := ⟨files, [], []⟩

/-- Write a file. A file that cannot be written is left as it is. -/
def writeBytes (path : String) (bytes : ByteArray) (s : Session) : Except Files.Error Unit × Session :=
  match s.files.write path bytes with
  | .ok files => (.ok (), { s with files })
  | .error e => (.error e, s)

/-- A session is a host. -/
instance : Host (StateM Session) where
  readBytes path s := (s.files.read path, s)
  writeBytes := writeBytes
  record event s := ((), { s with events := s.events ++ [event] })
  say line s := ((), { s with printed := s.printed ++ [line] })

/-- The lines of the log that are shown. -/
def log (verbosity : Nat) (s : Session) : List String :=
  (s.events.filter (Event.isShown verbosity)).map Event.line

/-- All that was printed. -/
def output (s : Session) : String := String.join (s.printed.map (· ++ "\n"))

end Session

end ProfileBindings
