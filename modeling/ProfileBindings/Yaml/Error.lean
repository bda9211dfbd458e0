import ProfileBindings.Decode.Fault
import ProfileBindings.Yaml.Token

/-!
# Why a YAML text cannot be read

A text may be malformed, or what it holds may not be what is called for; the fault then has a path through
the document and a place in the text.

Main definitions: `Path`, `Path.write`, `Error`, `Error.message`.
-/

namespace ProfileBindings.Yaml

/-- A step into a document. The value of a key that is an alias has no name. -/
inductive Step where
  | item (index : Nat)
  | key (name : String)
  | unnamed
deriving DecidableEq, Repr

/-- A path into a document, from the outside. -/
abbrev Path := List Step

namespace Path

/-- A path with one more step. -/
def extend (written : Option String) (step : Step) : Option String :=
  let named (name : String) : String :=
    match written with
    | none => name
    | some parent => parent ++ "." ++ name
  match step with
  | .item index => some (written.getD "." ++ "[" ++ toString index ++ "]")
  | .key name => some (named name)
  | .unnamed => some (named "?")

/-- A path in writing; the whole document is a dot. -/
def write (path : Path) : String := (path.foldl extend none).getD "."

end Path

/-- Why a text cannot be read. -/
inductive Error where
  /-- The text is not well formed. -/
  | malformed
  /-- Something stands behind the first document. -/
  | severalDocuments
  /-- A value is not what is called for. -/
  | fault (reason : Decode.Fault) (path : Path) (mark : Mark)
  /-- Collections are nested too deep. -/
  | tooDeep (mark : Mark)
  /-- Aliases are followed too often. -/
  | tooManyAliases
deriving DecidableEq

namespace Error

/-- A place in words; the start of the text is not worth a mention. -/
def place (m : Mark) : String :=
  if m.line = 0 && m.column = 0 then ""
  else " at line " ++ toString (m.line + 1) ++ " column " ++ toString (m.column + 1)

/-- An error in words. -/
def message : Error → String
  | malformed => "malformed document"
  | severalDocuments => "deserializing from YAML containing more than one document is not supported"
  | fault reason path mark =>
    let written := path.write
    (if written = "." then "" else written ++ ": ") ++ reason.message .yaml ++ place mark
  | tooDeep mark => "recursion limit exceeded" ++ place mark
  | tooManyAliases => "repetition limit exceeded"

end Error

end ProfileBindings.Yaml
