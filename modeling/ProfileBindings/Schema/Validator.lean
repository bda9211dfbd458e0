import ProfileBindings.Schema.Bindings
import ProfileBindings.Schema.Reader

/-!
# Validators

A validator holds the schema that documents are checked against: the built-in one, or one that was read
from a file. A schema from a file is looked at only when a document is checked.

Main definitions: `Validator`, `Validator.Error`, `Validator.check`.
-/

namespace ProfileBindings

/-- The schema that documents are checked against. -/
inductive Validator where
  | builtIn
  | loaded (path : String) (schema : Json)

namespace Validator

/-- The name of the file that holds a schema. -/
def fileName : String := "bindings.schema.json"

/-- Why a document was refused. -/
inductive Error where
  /-- The document has violations. -/
  | failed (violations : List Violation)
  /-- The schema is none. -/
  | unusableSchema

/-- An error in words. -/
def Error.message : Error → String
  | failed violations =>
    "validation failed against schema '" ++ fileName ++ "':\n"
      ++ "\n".intercalate (violations.map Violation.line)
  | unusableSchema =>
    "validator build error for schema '" ++ fileName ++ "': the schema breaks its own rules"

/-- The schema with its parts. -/
def root? : Validator → Option Schema.Root
  | builtIn => some Schema.bindings
  | loaded _ schema => Schema.Root.read? schema

/-- Check a document. -/
def check (validator : Validator) (document : Json) : Except Error Unit :=
  match validator.root? with
  | none => .error .unusableSchema
  | some root =>
    match root.violations document with
    | [] => .ok ()
    | found => .error (.failed found)

end Validator

end ProfileBindings
