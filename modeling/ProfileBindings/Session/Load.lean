import ProfileBindings.Config.Yaml
import ProfileBindings.Enumerator.Header
import ProfileBindings.Json.Reader
import ProfileBindings.Schema.Validator
import ProfileBindings.Session.Basic
import ProfileBindings.Yaml.Value

/-!
# Loading files

What a session reads: a document in the format that the name of its file calls for, the enumerators that a
header declares, a schema from a file of a fixed name in a directory, and a configuration, which also has to
make valid files. Each has errors of its own, with the words for them.

Main definitions:
* `Document.load` : the value of a document, by `DocumentFormat.read`;
* `Header.load` : the enumerators of a header;
* `Validator.load` : the schema in a directory;
* `Config.load` : the configuration of a file, by `Config.ofText`.
-/

namespace ProfileBindings

variable {m : Type → Type} [Monad m] [Host m]

/-! ## Documents -/

/-- Why a text has no value. -/
inductive TextError where
  | json (reason : Json.ReadError)
  | yaml (reason : Yaml.Error)
deriving DecidableEq

/-- An error in words. -/
def TextError.message : TextError → String
  | json reason => "invalid JSON: " ++ reason.message
  | yaml reason => "invalid YAML: " ++ reason.message

/-- The value of a text. -/
def DocumentFormat.read (format : DocumentFormat) (text : String) : Except TextError Json :=
  match format with
  | json => (Json.read text).mapError .json
  | yaml => (Yaml.read text).mapError .yaml

namespace Document

/-- Why a file has no value. -/
inductive LoadError where
  | unreadable (path : String) (reason : Files.Error)
  | unparsable (path : String) (reason : TextError)

/-- An error in words. -/
def LoadError.message : LoadError → String
  | unreadable path reason =>
    "document load error for '" ++ path ++ "': cannot read file: " ++ reason.message
  | unparsable path reason => "document load error for '" ++ path ++ "': " ++ reason.message

/-- The value of a file. -/
def load (path : String) : ExceptT LoadError m Json := do
  match ← Host.readText path with
  | .error reason => throw (.unreadable path reason)
  | .ok text =>
    let format := DocumentFormat.ofPath path
    Host.record (.documentRead path format text.utf8ByteSize)
    (format.read text).mapError (LoadError.unparsable path)

end Document

/-! ## Headers -/

namespace Header

/-- A header that cannot be read. -/
structure LoadError where
  path : String
  reason : Files.Error

/-- An error in words. -/
def LoadError.message (e : LoadError) : String :=
  "document load error for '" ++ e.path ++ "': cannot read enumerator header: " ++ e.reason.message

/-- The enumerators that a file declares. -/
def load (path : String) : ExceptT LoadError m EnumeratorNames := do
  match ← Host.readText path with
  | .error reason => throw ⟨path, reason⟩
  | .ok text =>
    let known := declared text
    Host.record (.headerScanned path known.inputs.size known.outputs.size)
    return known

end Header

/-! ## Schemas -/

namespace Validator

/-- Why a directory gives no schema. -/
inductive LoadError where
  | unreadable (path : String) (reason : Files.Error)
  | notJson (reason : Json.ReadError)

/-- An error in words. -/
def LoadError.message : LoadError → String
  | unreadable path reason =>
    "schema load error for '" ++ path ++ "': cannot read schema: " ++ reason.message
  | notJson reason => "schema load error for '" ++ fileName ++ "': invalid JSON: " ++ reason.message

/-- The schema in a directory. -/
def load (directory : String) : ExceptT LoadError m Validator := do
  let path := Path.join directory fileName
  match ← Host.readText path with
  | .error reason => throw (.unreadable path reason)
  | .ok text =>
    let schema ← (Json.read text).mapError LoadError.notJson
    Host.record (.schemaLoaded path)
    return .loaded path schema

end Validator

/-! ## Configurations -/

namespace Config

/-- Why there is no configuration. -/
inductive LoadError where
  /-- The file cannot be read. -/
  | unreadable (path : String) (reason : Files.Error)
  /-- The text gives no configuration. -/
  | unparsable (origin : String) (reason : Yaml.Error)
  /-- The configuration makes no valid files. -/
  | invalid (reason : Fault)

/-- An error in words. -/
def LoadError.message : LoadError → String
  | unreadable path reason => "io error on '" ++ path ++ "': " ++ reason.message
  | unparsable origin reason => "cannot parse generator config '" ++ origin ++ "': " ++ reason.message
  | invalid reason => "invalid generator config: " ++ reason.message

/-- What lies behind an error, if it has a story of its own. -/
def LoadError.origin? : LoadError → Option String
  | unreadable _ reason => some reason.message
  | unparsable _ reason => some reason.message
  | invalid _ => none

/-- The configuration of a text that comes from somewhere. -/
def ofText (origin text : String) : Except LoadError Config := do
  let c ← (ofYaml text).mapError (.unparsable origin)
  c.check.mapError .invalid
  return c

/-- The configuration of a file. -/
def load (path : String) : ExceptT LoadError m Config := do
  match ← Host.readText path with
  | .error reason => throw (.unreadable path reason)
  | .ok text =>
    let c ← ofText path text
    Host.record (.configLoaded path)
    return c

end Config

end ProfileBindings
