import ProfileBindings.Decode.Fault

/-!
# Typed reading

Readers for the types of which fields are made: texts, lists of texts, optional texts, objects and
counts. Each accepts exactly one kind of value and says what else it met.

A record is written as an object, its fields in any order, or as the list of its fields in their declared
order. Fields are read in the order of the text and the first one that cannot be read is to blame; only
then is a missing field noticed, in declared order.

Main definitions:
* `text`, `optionalText`, `texts`, `members`, `textsByName`, `count` : the readers of values;
* `RecordForm` : the name of a record, its fields, and what is asked of each of them;
* `RecordForm.firstFault?` : the first field of a text that cannot be read;
* `RecordForm.source` : the fields that a value gives, all of them readable;
* `Source.require`, `Source.optional` : a field that has to be there, and one that may be missing.
-/

namespace ProfileBindings.Decode

/-- What a value is met as. -/
def seen : Json → Seen
  | .null => .nothing
  | .bool b => .boolean b
  | .int n => .integer n
  | .float bits => .float bits
  | .str s => .text s
  | .arr _ => .sequence
  | .obj _ => .map

/-- A text. -/
def text : Json → Except Fault String
  | .str s => .ok s
  | v => .error (.invalidType (seen v) "a string")

/-- A text, or `null` for none. -/
def optionalText : Json → Except Fault (Option String)
  | .null => .ok none
  | v => (text v).map some

/-- A list of texts; the first item that is none is to blame. -/
def texts : Json → Except Fault (List String)
  | .arr items => items.mapM text
  | v => .error (.invalidType (seen v) "a sequence")

/-- The members of an object. -/
def members : Json → Except Fault Json.Fields
  | .obj fields => .ok fields
  | v => .error (.invalidType (seen v) "a map")

/-- An object whose values are texts or `null`. -/
def textsByName (v : Json) : Except Fault (List (String × Option String)) := do
  (← members v).mapM fun field => (optionalText field.2).map (field.1, ·)

/-- A count. An integer of a document has at most 64 bits, so each one that is not negative is a count. -/
def count : Json → Except Fault Nat
  | .int n => if 0 ≤ n then .ok n.toNat else .error (.invalidValue (.integer n) "usize")
  | v => .error (.invalidType (seen v) "usize")

/-! ## Records -/

/-- Why a reading failed, if it did. -/
def fault? {α : Type} : Except Fault α → Option Fault
  | .ok _ => none
  | .error fault => some fault

/-- What a record is made of. -/
structure RecordForm where
  /-- The record in messages. -/
  label : String
  /-- The fields in declared order, each with the reason why a value cannot stand there. -/
  fields : List (String × (Json → Option Fault))
  /-- Only declared fields are allowed. Otherwise any other name may have any value. -/
  closed : Bool

/-- The fields that a record was read from: written by name, or listed. -/
structure Source where
  form : RecordForm
  listed : Bool
  fields : Json.Fields

namespace RecordForm

/-- The declared fields in their order. -/
def names (form : RecordForm) : List String := form.fields.map Prod.fst

/-- Why a value cannot stand under a name, if it cannot. -/
def faultAt? (form : RecordForm) (name : String) (value : Json) : Option Fault :=
  match form.fields.find? (·.1 == name) with
  | some field => field.2 value
  | none => if form.closed then some (.unknownField name form.names) else none

/-- The first fault among fields, in their order. -/
def firstFault? (form : RecordForm) (fields : Json.Fields) : Option Fault :=
  fields.findSome? fun field => form.faultAt? field.1 field.2

/-- The fields that a value gives. A list may not be longer than the declared fields. -/
def source (form : RecordForm) : Json → Except Fault Source
  | .obj fields =>
    match form.firstFault? fields with
    | some fault => .error fault
    | none => .ok ⟨form, false, fields⟩
  | .arr items =>
    match form.firstFault? (form.names.zip items) with
    | some fault => .error fault
    | none =>
      if form.names.length < items.length then
        .error (.invalidLength items.length "fewer elements in array")
      else .ok ⟨form, true, form.names.zip items⟩
  | v => .error (.invalidType (seen v) form.label)

end RecordForm

namespace Source

/-- What is wrong when a field is missing. A list that ends before the field is blamed for its length. -/
def missing (source : Source) (name : String) : Fault :=
  if source.listed then
    .invalidLength (source.form.names.idxOf name)
      (source.form.label ++ " with " ++ toString source.form.names.length ++ " elements")
  else .missingField name

/-- A field that has to be there. -/
def require {α : Type} (source : Source) (name : String) (read : Json → Except Fault α) :
    Except Fault α :=
  match source.fields.get? name with
  | some value => read value
  | none => .error (source.missing name)

/-- A field that has a value of its own when it is missing. -/
def optional {α : Type} (source : Source) (name : String) (absent : α)
    (read : Json → Except Fault α) : Except Fault α :=
  match source.fields.get? name with
  | some value => read value
  | none => .ok absent

end Source

end ProfileBindings.Decode
