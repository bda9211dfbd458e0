import ProfileBindings.Artifact.Output
import ProfileBindings.Check.Semantics
import ProfileBindings.Session.Load

/-!
# Checking a document

Every command begins the same way: the document is read, its shape is checked against a schema, it is made
into a model, and the model is checked, if asked for also against the enumerators of a header. What is
wrong with a document that has no model is a failure; what is wrong with the model is a finding.

A failure says what was being done, what went wrong there, and what lies behind that.

Main definitions:
* `Failure`, `Failure.message` : why a command fails;
* `Input` : the document, and what it is checked against;
* `Checked` : a model with its findings;
* `check`, `report` : find, and log what was found.
-/

namespace ProfileBindings.Command

/-! ## Failures -/

/-- Why a command fails. -/
inductive Failure where
  | config (path : String) (reason : Config.LoadError)
  | document (path : String) (reason : Document.LoadError)
  | schema (reason : Validator.LoadError)
  | shape (path : String) (reason : Validator.Error)
  | model (path : String) (reason : Document.Error)
  | header (path : String) (reason : Header.LoadError)
  | refused (path : String) (errors : Nat)
  | output (reason : Output.Error)

namespace Failure

/-- A failure in words, from what was being done to what lies behind it. -/
def chain : Failure → List String
  | config path reason =>
    ["failed to load config " ++ path, reason.message] ++ reason.origin?.toList
  | document path reason => ["failed to load " ++ path, reason.message]
  | schema reason => ["failed to load bindings schema", reason.message]
  | shape path reason => [path ++ " does not match the bindings schema", reason.message]
  | model path reason => ["failed to read profiles from " ++ path, reason.message]
  | header path reason => ["failed to scan " ++ path, reason.message]
  | refused path errors => ["refusing to generate: " ++ toString errors ++ " error(s) in " ++ path]
  | output reason => ["failed to generate bindings", reason.message] ++ reason.origin?.toList

/-- A failure on one line. -/
def message (failure : Failure) : String := ": ".intercalate failure.chain

end Failure

/-- What a command does on a host. -/
abbrev Action (m : Type → Type) (α : Type) := ExceptT Failure m α

/-! ## Findings -/

/-- A document, and what it is checked against. -/
structure Input where
  /-- The file of the document. -/
  document : String
  /-- The header whose enumerators the document may use. -/
  header : Option String
  /-- The directory of the schema, unless the built-in one is meant. -/
  schemaDirectory : Option String
deriving DecidableEq, Repr

/-- A model with its findings. -/
structure Checked where
  model : Document
  issues : List Issue
  unknown : List Header.Unknown

namespace Checked

/-- The number of findings that keep the document from being generated. -/
def errorCount (c : Checked) : Nat := (c.issues.filter Issue.isError).length + c.unknown.length

/-- The number of findings that do not. -/
def warningCount (c : Checked) : Nat := (c.issues.filter fun i => !i.isError).length

end Checked

variable {m : Type → Type} [Monad m] [Host m]

/-- The configuration of a file, or the standard one. -/
def loadConfig (path : Option String) : Action m Config :=
  match path with
  | none => return .standard
  | some path => ExceptT.adapt (Failure.config path) (Config.load path)

/-- The schema to check against. -/
def loadValidator (input : Input) : Action m Validator :=
  match input.schemaDirectory with
  | none => return .builtIn
  | some directory => ExceptT.adapt Failure.schema (Validator.load directory)

/-- The model of a document whose shape is right. -/
def loadModel (input : Input) : Action m Document := do
  let value ← ExceptT.adapt (Failure.document input.document) (Document.load input.document)
  let validator ← loadValidator input
  (validator.check value).mapError (Failure.shape input.document)
  (Document.read value).mapError (Failure.model input.document)

/-- The enumerators of a model that the header does not declare, if there is a header. -/
def findUnknown (input : Input) (config : Config) (d : Document) : Action m (List Header.Unknown) :=
  match input.header with
  | none => return []
  | some path => do
    let known ← ExceptT.adapt (Failure.header path) (Header.load path)
    if Header.declaresNothing known then Host.record (.headerEmpty path)
    return Header.unknown known (.ofDocument d config.extraInputs)

/-- Read and check a document. -/
def check (input : Input) (config : Config) : Action m Checked := do
  let model ← loadModel input
  let issues := Check.issues model config.pathsPerTemplate
  let unknown ← findUnknown input config model
  Host.record
    (.documentChecked input.document model.profiles.length issues.length unknown.length)
  return { model, issues, unknown }

/-- Put all findings into the log. -/
def report (c : Checked) : Action m Unit := do
  c.issues.forM fun issue => Host.record (.issueFound issue)
  c.unknown.forM fun name => Host.record (.nameUnknown name)

end ProfileBindings.Command
