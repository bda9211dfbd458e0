import ProfileBindings.Pattern.Basic
import ProfileBindings.Schema.Violation

/-!
# Schemas

A schema is a list of demands on a value, in the order in which they are written. A demand that does not
concern a kind of value is met by it: only objects can lack a property, only texts can be too short.

Main definitions: `Schema`, `Schema.Demand`, `Schema.Library`.
-/

namespace ProfileBindings

mutual

/-- What a value has to be. -/
inductive Schema where
  /-- Every value, or none. -/
  | always (allowed : Bool)
  /-- Values that meet all demands. -/
  | all (demands : List Schema.Demand)

/-- One demand. -/
inductive Schema.Demand where
  /-- The value has one of the types. -/
  | hasType (types : List Schema.ValueType)
  /-- The object has these properties. -/
  | required (names : List String)
  /-- Each of these properties, where it is there, meets its schema. -/
  | properties (known : List (String × Schema))
  /-- So does every other property. -/
  | propertiesOr (known : List (String × Schema)) (other : Schema)
  /-- There are no other properties. -/
  | onlyProperties (known : List (String × Schema))
  /-- There are no properties at all. -/
  | noProperties
  /-- There are at least so many properties. -/
  | minProperties (least : Nat)
  /-- The names of the properties meet a schema. -/
  | propertyNames (schema : Schema)
  /-- There are no properties, whatever their names. -/
  | noPropertyNames
  /-- Some part of the text matches; the pattern comes with its written form. -/
  | pattern (written : String) (pattern : Pattern)
  /-- The text has at least so many characters. -/
  | minLength (least : Nat)
  /-- Every item of the list meets a schema. -/
  | items (schema : Schema)
  /-- The list has at least so many items. -/
  | minItems (least : Nat)
  /-- No two items of the list say the same. -/
  | uniqueItems
  /-- Exactly one of the schemas is met. -/
  | oneOf (choices : List Schema)
  /-- The schema with a name is met. -/
  | named (name : String)

end

/-- Schemas by the names under which demands refer to them. -/
abbrev Schema.Library := List (String × Schema)

/-- A schema with the schemas that it refers to. -/
structure Schema.Root where
  schema : Schema
  library : Schema.Library

end ProfileBindings
