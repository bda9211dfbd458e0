import ProfileBindings.Json.Writer

/-!
# Violations of a schema

What a value violates, and where: the place in the value and the place in the schema, both as lists of
steps that are written as pointers.

Main definitions: `Schema.ValueType`, `Violation.Cause`, `Violation`, `Violation.message`.
-/

namespace ProfileBindings

/-- The types of values that a schema can ask for. A whole number is an integer however it is written. -/
inductive Schema.ValueType where
  | array
  | boolean
  | integer
  | null
  | number
  | object
  | string
deriving DecidableEq, Repr

namespace Schema.ValueType

/-- The word for a type. -/
def word : ValueType → String
  | array => "array"
  | boolean => "boolean"
  | integer => "integer"
  | null => "null"
  | number => "number"
  | object => "object"
  | string => "string"

/-- All types in alphabetical order. -/
def all : List ValueType := [array, boolean, integer, null, number, object, string]

/-- The type that a word stands for. -/
def ofWord? (s : String) : Option ValueType := all.find? (·.word == s)

end Schema.ValueType

/-- A place as the steps that lead to it from the outermost value. -/
abbrev Pointer := List String

namespace Pointer

/-- A step as it is written: a slash inside a step is escaped, and so is the escape. -/
def writeStep (step : String) : String :=
  String.ofList (step.toList.flatMap fun c =>
    if c = '~' then ['~', '0'] else if c = '/' then ['~', '1'] else [c])

/-- A place in writing. The outermost value is the empty text. -/
def write (place : Pointer) : String := String.join (place.map fun step => "/" ++ writeStep step)

end Pointer

/-- What is violated. -/
inductive Violation.Cause where
  | wrongType (value : Json) (types : List Schema.ValueType)
  | missing (name : String)
  | tooFewProperties (value : Json) (least : Nat)
  | tooFewItems (value : Json) (least : Nat)
  | tooShort (value : Json) (least : Nat)
  | noMatch (value : Json) (pattern : String)
  | repeatedItem (value : Json)
  | noneOf (value : Json)
  | severalOf (value : Json)
  | unexpected (names : List String)
  | forbidden (value : Json)

/-- A violation with its place in the value and its place in the schema. -/
structure Violation where
  instancePlace : Pointer
  schemaPlace : Pointer
  cause : Violation.Cause

namespace Violation

/-- A count with its noun in the right number. -/
def counted (n : Nat) (one many : String) : String := toString n ++ " " ++ if n = 1 then one else many

/-- A cause in words. -/
def Cause.message : Cause → String
  | wrongType v [t] => v.compact ++ " is not of type \"" ++ t.word ++ "\""
  | wrongType v types =>
    v.compact ++ " is not of types " ++ ", ".intercalate (types.map fun t => "\"" ++ t.word ++ "\"")
  | missing name => Json.writeString name ++ " is a required property"
  | tooFewProperties v n => v.compact ++ " has less than " ++ counted n "property" "properties"
  | tooFewItems v n => v.compact ++ " has less than " ++ counted n "item" "items"
  | tooShort v n => v.compact ++ " is shorter than " ++ counted n "character" "characters"
  | noMatch v pattern => v.compact ++ " does not match \"" ++ pattern ++ "\""
  | repeatedItem v => v.compact ++ " has non-unique elements"
  | noneOf v =>
    v.compact ++ " is not valid under any of the schemas listed in the 'oneOf' keyword"
  | severalOf v =>
    v.compact ++ " is valid under more than one of the schemas listed in the 'oneOf' keyword"
  | unexpected names =>
    "Additional properties are not allowed (" ++ ", ".intercalate (names.map ("'" ++ · ++ "'"))
      ++ (if names.length = 1 then " was" else " were") ++ " unexpected)"
  | forbidden v => "False schema does not allow " ++ v.compact

/-- The place of the violation in the value, for a reader. -/
def place (v : Violation) : String :=
  if v.instancePlace.isEmpty then "(root)" else v.instancePlace.write

/-- The violation on a line of its own. -/
def line (v : Violation) : String := "  " ++ v.place ++ ": " ++ v.cause.message

end Violation

end ProfileBindings
