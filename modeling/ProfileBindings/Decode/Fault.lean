import ProfileBindings.Decimal.Shortest
import ProfileBindings.Json.Basic
import ProfileBindings.Text.Quoted

/-!
# Faults of typed reading

Why a value is not what a field calls for. A fault records what was met and what was expected; the words
for what was met depend on the format of the text that it was read from.

Main definitions: `Decode.Seen` (what was met), `Decode.Fault`, `Decode.Wording` with its values
`Wording.json` and `Wording.yaml`, and `Fault.message`.
-/

namespace ProfileBindings.Decode

/-- What was met in the place of a value. A wide integer is one beyond 64 bits, with or without a sign of
its own; a tagged value names a type that the format does not know. -/
inductive Seen where
  | nothing
  | boolean (b : Bool)
  | integer (n : Int)
  | wideInteger (signed : Bool) (n : Int)
  | float (bits : UInt64)
  | text (s : String)
  | sequence
  | map
  | tagged
deriving DecidableEq, Repr

/-- Why a value cannot be read. -/
inductive Fault where
  | invalidType (seen : Seen) (expected : String)
  | invalidValue (seen : Seen) (expected : String)
  | invalidLength (length : Nat) (expected : String)
  | missingField (name : String)
  | unknownField (name : String) (known : List String)
  | unknownVariant (name : String) (known : List String)
  | duplicateField (name : String)
  | numberOutOfRange
deriving DecidableEq, Repr

/-- The words that a format has for what was met: for the missing value, and for numbers. -/
structure Wording where
  nothing : String
  numbers : Decimal.Layout

/-- JSON has a word for the missing value. -/
def Wording.json : Wording := ⟨"null", .document⟩

/-- YAML leaves the missing value empty. -/
def Wording.yaml : Wording := ⟨"unit value", .everyday⟩

/-- A word in the quotes that set off names inside a message. -/
def ticked (s : String) : String := "\x60" ++ s ++ "\x60"

/-- What was met, in words. -/
def Seen.describe (w : Wording) : Seen → String
  | nothing => w.nothing
  | boolean b => "boolean " ++ ticked (if b then "true" else "false")
  | integer n => "integer " ++ ticked (toString n)
  | wideInteger signed n => "integer " ++ ticked (toString n) ++ (if signed then " as i128" else " as u128")
  | float bits => "floating point " ++ ticked (Decimal.write w.numbers bits)
  | text s => "string " ++ Text.quoted s
  | sequence => "sequence"
  | map => "map"
  | tagged => "enum"

/-- The names of which one was expected. -/
def oneOf : List String → String
  | [] => "nothing"
  | [a] => ticked a
  | [a, b] => ticked a ++ " or " ++ ticked b
  | names => "one of " ++ ", ".intercalate (names.map ticked)

/-- A fault in words. -/
def Fault.message (w : Wording) : Fault → String
  | invalidType seen expected => "invalid type: " ++ seen.describe w ++ ", expected " ++ expected
  | invalidValue seen expected => "invalid value: " ++ seen.describe w ++ ", expected " ++ expected
  | invalidLength n expected => "invalid length " ++ toString n ++ ", expected " ++ expected
  | missingField name => "missing field " ++ ticked name
  | unknownField name known => "unknown field " ++ ticked name ++ ", expected " ++ oneOf known
  | unknownVariant name known => "unknown variant " ++ ticked name ++ ", expected " ++ oneOf known
  | duplicateField name => "duplicate field " ++ ticked name
  | numberOutOfRange => "JSON number out of range"

end ProfileBindings.Decode
