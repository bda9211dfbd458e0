import ProfileBindings.Check.Issue
import ProfileBindings.Enumerator.Header
import ProfileBindings.Files.Basic
import ProfileBindings.Text.Words

/-!
# Events

What is worth a line in the log of a session. How much of it is shown depends on how talkative the session
is: findings and failures always, files that are written from the first step on, all else from the second.

Main definitions: `Level`, `Event`, `Event.shownChar`, `Event.line`, `Event.isShown`.
-/

namespace ProfileBindings

/-- How much an event matters. -/
inductive Level where
  | error
  | warning
  | info
  | debug
deriving DecidableEq, Repr

namespace Level

/-- The word for a level in a column of five characters, aligned to the right. -/
def column : Level → String
  | error => "ERROR"
  | warning => " WARN"
  | info => " INFO"
  | debug => "DEBUG"

/-- How talkative a session is at least that shows a level. -/
def threshold : Level → Nat
  | error => 0
  | warning => 0
  | info => 1
  | debug => 2

end Level

/-- What is worth a line in the log. -/
inductive Event where
  | started
  | configLoaded (path : String)
  | documentRead (path : String) (format : DocumentFormat) (bytes : Nat)
  | schemaLoaded (path : String)
  | headerScanned (path : String) (inputs outputs : Nat)
  | headerEmpty (path : String)
  | documentChecked (path : String) (profiles issues unknown : Nat)
  | issueFound (issue : Issue)
  | nameUnknown (unknown : Header.Unknown)
  | sourceRendered (profiles inputs outputs bytes : Nat)
  | headerRendered (profiles bytes : Nat)
  | outputSkipped (path : String)
  | outputCurrent (path : String)
  | outputStale (path : String) (isThere : Bool)
  | outputWritten (path : String) (bytes : Nat)
  | failed (reason : String)

namespace Event

/-- How much an event matters. An issue is a warning unless it is an error. -/
def level : Event → Level
  | started => .debug
  | configLoaded _ => .debug
  | documentRead _ _ _ => .debug
  | schemaLoaded _ => .debug
  | headerScanned _ _ _ => .debug
  | headerEmpty _ => .warning
  | documentChecked _ _ _ _ => .debug
  | issueFound issue => if issue.isError then .error else .warning
  | nameUnknown _ => .error
  | sourceRendered _ _ _ _ => .debug
  | headerRendered _ _ => .debug
  | outputSkipped _ => .warning
  | outputCurrent _ => .debug
  | outputStale _ _ => .debug
  | outputWritten _ _ => .info
  | failed _ => .error

/-- What happened. -/
def message : Event → String
  | started => "xrbind v0.1.0 starting"
  | configLoaded _ => "loaded generator config"
  | documentRead _ _ _ => "loading bindings document"
  | schemaLoaded _ => "loaded bindings schema"
  | headerScanned _ _ _ => "scanned runtime enumerators"
  | headerEmpty _ => "enumerator header declares no XRT_INPUT_*/XRT_OUTPUT_* names"
  | documentChecked _ _ _ _ => "checked bindings document"
  | issueFound issue => issue.message
  | nameUnknown unknown => unknown.message
  | sourceRendered _ _ _ _ => "rendered bindings source"
  | headerRendered _ _ => "rendered bindings header"
  | outputSkipped _ =>
    "output name ends in neither " ++ Artifact.Kind.source.suffix ++ " nor "
      ++ Artifact.Kind.header.suffix ++ ", skipping"
  | outputCurrent _ => "output is up to date"
  | outputStale _ _ => "output is stale"
  | outputWritten _ _ => "wrote generated bindings"
  | failed reason => reason

/-- The particulars of an event by name. -/
def fields : Event → List (String × String)
  | configLoaded path => [("config", path)]
  | documentRead path format bytes =>
    [("path", path), ("format", format.word), ("bytes", toString bytes)]
  | schemaLoaded path => [("schema", path)]
  | headerScanned path inputs outputs =>
    [("header", path), ("inputs", toString inputs), ("outputs", toString outputs)]
  | headerEmpty path => [("header", path)]
  | documentChecked path profiles issues unknown =>
    [("document", path), ("profiles", toString profiles), ("issues", toString issues),
      ("unknown", toString unknown)]
  | sourceRendered profiles inputs outputs bytes =>
    [("profiles", toString profiles), ("inputs", toString inputs), ("outputs", toString outputs),
      ("bytes", toString bytes)]
  | headerRendered profiles bytes =>
    [("profiles", toString profiles), ("bytes", toString bytes)]
  | outputSkipped path => [("output", path)]
  | outputCurrent path => [("output", path)]
  | outputStale path isThere =>
    [("output", path), ("exists", if isThere then "true" else "false")]
  | outputWritten path bytes => [("output", path), ("bytes", toString bytes)]
  | _ => []

/-- A character of a message in the log. What a terminal would obey is written by its number; line ends and
tabs stay. -/
def shownChar (c : Char) : String :=
  let digits := Text.lowerHex c.toNat
  if c ∈ ['\x07', '\x08', '\x0c'] then "\\x0" ++ digits
  else if c ∈ ['\x1b', '\x7f'] then "\\x" ++ digits
  else if 0x80 ≤ c.toNat && c.toNat ≤ 0x9F then "\\u\x7b" ++ digits ++ "\x7d"
  else c.toString

/-- What happened, as it stands in the log. -/
def shownMessage (event : Event) : String := String.join (event.message.toList.map shownChar)

/-- The line for an event: its level, what happened, and its particulars. -/
def line (event : Event) : String :=
  event.level.column ++ " " ++ event.shownMessage
    ++ String.join (event.fields.map fun field => " " ++ field.1 ++ "=" ++ field.2)

/-- A session that is so talkative shows the event. -/
def isShown (verbosity : Nat) (event : Event) : Bool := event.level.threshold ≤ verbosity

end Event

end ProfileBindings
