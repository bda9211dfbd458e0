import ProfileBindings.Artifact.Render
import ProfileBindings.Session.Basic

/-!
# Outputs

The paths that artifacts are written to. Everything that is asked for is rendered before the first file is
touched, each artifact once; a file that already holds its artifact is left alone.

Main definitions:
* `Output.Mode`, `Output.Status`, `Output.Report` : what is asked for, and what came of it;
* `Output.Error` : why outputs could not be brought up to date;
* `Output.renderAll`, `Output.update`, `Output.updateAll` : the work.
-/

namespace ProfileBindings.Output

open Artifact (Kind)

/-- Files are written, or only looked at. -/
inductive Mode where
  | write
  | check
deriving DecidableEq, Repr

/-- What came of an output. -/
inductive Status where
  /-- The file was missing or different and has been written. -/
  | written
  /-- The file already held its artifact. -/
  | unchanged
  /-- The file is missing or different, and was only looked at. -/
  | stale
  /-- The path receives no artifact. -/
  | skipped
deriving DecidableEq, Repr

/-- What came of one path. -/
structure Report where
  path : String
  kind : Option Kind
  status : Status
deriving DecidableEq, Repr

/-- Why outputs could not be brought up to date. -/
inductive Error where
  | render (reason : Artifact.Error)
  | file (path : String) (reason : Files.Error)

/-- An error in words. -/
def Error.message : Error → String
  | render reason => reason.message
  | file path reason => "io error on '" ++ path ++ "': " ++ reason.message

/-- What lies behind an error, if it has a story of its own. -/
def Error.origin? : Error → Option String
  | render _ => none
  | file _ reason => some reason.message

/-- The event of rendering an artifact. -/
def renderedEvent (kind : Kind) (config : Config) (d : Document) (text : String) : Event :=
  match kind with
  | .source =>
    let names := EnumeratorNames.ofDocument d config.extraInputs
    .sourceRendered d.profiles.length names.inputs.size names.outputs.size text.utf8ByteSize
  | .header => .headerRendered d.profiles.length text.utf8ByteSize

/-- The artifacts that paths ask for, each once, in the order in which they are first asked for. -/
def kindsOf (paths : List String) : List Kind := (paths.filterMap Kind.ofPath?).eraseDups

variable {m : Type → Type} [Monad m] [Host m]

/-- Render one artifact. -/
def render (config : Config) (d : Document) (kind : Kind) : ExceptT Error m (Kind × String) := do
  match Artifact.render kind config d with
  | .error reason => throw (.render reason)
  | .ok text =>
    Host.record (renderedEvent kind config d text)
    return (kind, text)

/-- Render the artifacts that paths ask for. -/
def renderAll (config : Config) (d : Document) (paths : List String) :
    ExceptT Error m (List (Kind × String)) :=
  (kindsOf paths).mapM (render config d)

/-- Bring one file up to date, or say whether it is. -/
def update (mode : Mode) (path text : String) : ExceptT Error m Status := do
  let current ← match ← Host.readBytes path with
    | .ok bytes => pure (some bytes)
    | .error .notFound => pure none
    | .error reason => throw (.file path reason)
  if current.map ByteArray.data = some text.toUTF8.data then
    Host.record (.outputCurrent path)
    return .unchanged
  else match mode with
    | .check =>
      Host.record (.outputStale path current.isSome)
      return .stale
    | .write =>
      match ← Host.writeBytes path text.toUTF8 with
      | .error reason => throw (.file path reason)
      | .ok () =>
        Host.record (.outputWritten path text.utf8ByteSize)
        return .written

/-- Bring the file of one path up to date with its artifact, if it receives one. -/
def updatePath (mode : Mode) (rendered : List (Kind × String)) (path : String) :
    ExceptT Error m Report := do
  let kind := Kind.ofPath? path
  match kind.bind fun kind => rendered.lookup kind with
  | none =>
    Host.record (.outputSkipped path)
    return ⟨path, kind, .skipped⟩
  | some text => return ⟨path, kind, ← update mode path text⟩

/-- Bring the files of paths up to date in their order. -/
def updateAll (mode : Mode) (config : Config) (d : Document) (paths : List String) :
    ExceptT Error m (List Report) := do
  let rendered ← renderAll config d paths
  paths.mapM (updatePath mode rendered)

end ProfileBindings.Output
