import ProfileBindings.Command.Run
import ProfileBindings.Command.Summary

/-!
# Arguments

What a list of arguments asks for. Arguments are read from the left, and the first one that settles the
matter does: a call for help or for the version, or something that cannot be understood. A command comes
first among the words; settings and switches stand anywhere unless two dashes end them, and only those of
the command may stand behind it. A setting in front of the command gives way to the same one behind it.

Main definitions:
* `Verb`, `Setting`, `Switch` : what arguments consist of;
* `Argument.ofText` : the forms of an argument;
* `Draft`, `Reading` : what was read so far;
* `Invocation`, `Invocation.read` : what is asked for.
-/

namespace ProfileBindings.Command

/-- The commands. -/
inductive Verb where
  | generate
  | validate
  | list
deriving DecidableEq, Repr

/-- What takes a path. -/
inductive Setting where
  | config
  | enumHeader
  | schemaDir
deriving DecidableEq, Repr

/-- What is on or off. -/
inductive Switch where
  | check
  | strict
  | paths
  | json
deriving DecidableEq, Repr

namespace Verb

/-- The command of a word. -/
def ofWord? : String → Option Verb
  | "generate" => some .generate
  | "validate" => some .validate
  | "list" => some .list
  | _ => none

/-- A command takes the document as its only path, unless it generates. -/
def hasRoom (verb : Verb) (paths : List String) : Bool := verb = .generate || paths.isEmpty

end Verb

/-- The setting of a name. Only the configuration may be set in front of a command. -/
def Setting.ofName? : Option Verb → String → Option Setting
  | _, "config" => some .config
  | some _, "enum-header" => some .enumHeader
  | some _, "schema-dir" => some .schemaDir
  | _, _ => none

/-- The switch of a name. Each belongs to one command. -/
def Switch.ofName? : Option Verb → String → Option Switch
  | some .generate, "check" => some .check
  | some .validate, "strict" => some .strict
  | some .list, "paths" => some .paths
  | some .list, "json" => some .json
  | _, _ => none

/-- The forms of an argument. -/
inductive Argument where
  /-- What follows consists of words only. -/
  | wordsOnly
  /-- A name behind two dashes, with the value behind the equals sign that it holds. -/
  | name (name : String) (value : Option String)
  /-- Letters behind one dash. -/
  | letters (letters : List Char)
  | word (word : String)
deriving DecidableEq, Repr

/-- The form of an argument. A lone dash is a word. -/
def Argument.ofText (text : String) : Argument :=
  match text.toList with
  | ['-', '-'] => .wordsOnly
  | '-' :: '-' :: cs =>
    let value := match cs.dropWhile (· != '=') with
      | _ :: value => some (String.ofList value)
      | [] => none
    .name (String.ofList (cs.takeWhile (· != '='))) value
  | '-' :: c :: cs => .letters (c :: cs)
  | _ => .word text

/-- What ends the reading of arguments early. -/
inductive Stop where
  | help
  | version
  /-- The arguments cannot be understood. -/
  | misuse
deriving DecidableEq, Repr

/-- What was read on one side of the command. -/
structure Draft where
  verbosity : Nat
  settings : List (Setting × String)
  switches : List Switch
deriving DecidableEq, Repr

namespace Draft

/-- Nothing yet. -/
def empty : Draft := ⟨0, [], []⟩

/-- Give a setting its path. It is given once, and a path is never empty. -/
def set (d : Draft) (setting : Setting) (path : String) : Except Stop Draft :=
  if path = "" || (d.settings.lookup setting).isSome then .error .misuse
  else .ok { d with settings := (setting, path) :: d.settings }

/-- Turn a switch on. It is turned on once. -/
def turnOn (d : Draft) (switch : Switch) : Except Stop Draft :=
  if d.switches.contains switch then .error .misuse
  else .ok { d with switches := switch :: d.switches }

/-- One step more talkative. -/
def raise (d : Draft) : Draft := { d with verbosity := d.verbosity + 1 }

/-- Read letters one by one. The version is told only in front of a command. -/
def readLetters (verb : Option Verb) (d : Draft) : List Char → Except Stop Draft
  | [] => .ok d
  | 'v' :: rest => d.raise.readLetters verb rest
  | 'h' :: _ => .error .help
  | 'V' :: _ => .error (if verb.isNone then .version else .misuse)
  | _ => .error .misuse

/-- Read a name that takes no value. -/
def readName (verb : Option Verb) (d : Draft) (name : String) : Except Stop Draft :=
  match name with
  | "verbose" => .ok d.raise
  | "help" => .error .help
  | "version" => .error (if verb.isNone then .version else .misuse)
  | name =>
    match Switch.ofName? verb name with
    | some switch => d.turnOn switch
    | none => .error .misuse

end Draft

/-- What was read so far: the command, what stands in front of it and behind it, and the paths. -/
structure Reading where
  verb : Option Verb
  front : Draft
  behind : Draft
  paths : List String

namespace Reading

/-- Nothing yet. -/
def empty : Reading := ⟨none, .empty, .empty, []⟩

/-- Change what was read on the side where the reading stands. -/
def modify (r : Reading) (change : Draft → Except Stop Draft) : Except Stop Reading :=
  match r.verb with
  | none => return { r with front := ← change r.front }
  | some _ => return { r with behind := ← change r.behind }

/-- Add a path, if the command has room for one more. A path is never empty. -/
def addPath (r : Reading) (path : String) : Except Stop Reading :=
  match r.verb with
  | none => .error .misuse
  | some verb =>
    if path = "" || !verb.hasRoom r.paths then .error .misuse
    else .ok { r with paths := r.paths ++ [path] }

/-- The words that help can be asked for. -/
def isTopic (word : String) : Bool := (Verb.ofWord? word).isSome || word = "help"

/-- Read a word: the command, or a path behind it. `rest` are the arguments behind the word. -/
def addWord (r : Reading) (word : String) (rest : List String) : Except Stop Reading :=
  match r.verb with
  | some _ => r.addPath word
  | none =>
    match Verb.ofWord? word, rest with
    | some verb, _ => .ok { r with verb := some verb }
    | none, [] => .error (if word = "help" then .help else .misuse)
    | none, [topic] => .error (if word = "help" && isTopic topic then .help else .misuse)
    | none, _ => .error .misuse

/-- A path may stand behind its setting: it does not look like a name or like letters. -/
def isPathValue (text : String) : Bool :=
  match Argument.ofText text with
  | .word _ => true
  | _ => false

/-- Read arguments. -/
def readAll (r : Reading) : List String → Except Stop Reading
  | [] => .ok r
  | text :: rest =>
    match Argument.ofText text with
    | .wordsOnly => rest.foldlM addPath r
    | .word word => do readAll (← r.addWord word rest) rest
    | .letters letters => do readAll (← r.modify fun d => d.readLetters r.verb letters) rest
    | .name name value =>
      match Setting.ofName? r.verb name with
      | none =>
        if value.isSome then .error .misuse
        else do readAll (← r.modify fun d => d.readName r.verb name) rest
      | some setting =>
        match value with
        | some path => do readAll (← r.modify fun d => d.set setting path) rest
        | none =>
          match rest with
          | [] => .error .misuse
          | path :: rest =>
            if isPathValue path then do readAll (← r.modify fun d => d.set setting path) rest
            else .error .misuse

/-- The path of a setting; what stands behind the command counts first. -/
def setting? (r : Reading) (setting : Setting) : Option String :=
  match r.behind.settings.lookup setting with
  | some path => some path
  | none => r.front.settings.lookup setting

/-- How talkative the session is; what stands behind the command counts first. -/
def verbosity (r : Reading) : Nat :=
  if r.behind.verbosity = 0 then r.front.verbosity else r.behind.verbosity

end Reading

/-- What a command is asked to do. -/
inductive Request where
  | generate (request : GenerateRequest)
  | validate (request : ValidateRequest)
  | list (request : ListRequest)
deriving DecidableEq, Repr

/-- What is asked for. -/
structure Invocation where
  verbosity : Nat
  config : Option String
  request : Request
deriving DecidableEq, Repr

/-- What the command is asked to do. A document has to be given, and outputs if they are to be
generated. -/
def Reading.request (r : Reading) : Except Stop Request :=
  match r.verb, r.paths with
  | some verb, document :: outputs =>
    let input : Input := {
      document
      header := r.setting? .enumHeader
      schemaDirectory := r.setting? .schemaDir }
    let isOn (switch : Switch) : Bool := r.behind.switches.contains switch
    match verb with
    | .generate =>
      if outputs.isEmpty then .error .misuse
      else .ok (.generate { input, outputs, checkOnly := isOn .check })
    | .validate => .ok (.validate { input, strict := isOn .strict })
    | .list => .ok (.list { input, withPaths := isOn .paths, asJson := isOn .json })
  | _, _ => .error .misuse

/-- What arguments ask for. -/
def Invocation.read (arguments : List String) : Except Stop Invocation := do
  let r ← Reading.empty.readAll arguments
  return { verbosity := r.verbosity, config := r.setting? .config, request := ← r.request }

end ProfileBindings.Command
