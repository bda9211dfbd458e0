import ProfileBindings.Schema.Violation
import ProfileBindings.Text.Words

/-!
# References

A reference inside a schema is the fragment of a URI: a mark, and behind it a pointer whose bytes may be
written by escapes. A pointer is followed step by step from the whole value.

Main definitions: `fragmentBytes?`, `Pointer.ofReference?`, `Pointer.at?`.
-/

namespace ProfileBindings.Schema

/-- The characters that stand for themselves in a fragment. -/
def isFragmentChar (c : Char) : Bool :=
  c.isAlphanum || c ∈ ['-', '.', '_', '~', '!', '$', '&', '\'', '(', ')', '*', '+', ',', ';', '=', ':',
    '@', '/', '?']

/-- The bytes that a fragment stands for. A percent sign has to be followed by two digits of base 16. -/
def fragmentBytes? : List Char → Option (List UInt8)
  | [] => some []
  | '%' :: a :: b :: rest => do
    let byte := ((← Text.hexValue? a) * 16 + (← Text.hexValue? b)).toUInt8
    return byte :: (← fragmentBytes? rest)
  | c :: rest =>
    if isFragmentChar c then (fragmentBytes? rest).map (c.toNat.toUInt8 :: ·) else none

/-- A step of a pointer with its escapes undone. -/
def unescapeStep : List Char → List Char
  | '~' :: '0' :: rest => '~' :: unescapeStep rest
  | '~' :: '1' :: rest => '/' :: unescapeStep rest
  | c :: rest => c :: unescapeStep rest
  | [] => []

/-- The index that a step stands for: digits, perhaps behind a plus, of a number of 64 bits. -/
def index? (step : String) : Option Nat :=
  let digits := match step.toList with
    | '+' :: rest => rest
    | cs => cs
  (Text.number? 10 digits).filter (· < Nat.pow 2 64)

namespace Pointer

/-- The steps of a reference into the same value, with their escapes still in them. -/
def ofReference? (name : String) : Option Pointer :=
  match name.toList with
  | ['#'] => some []
  | '#' :: '/' :: rest => do
    let text ← String.fromUTF8? ⟨(← fragmentBytes? rest).toArray⟩
    return (Text.segments (· == '/') text.toList).map String.ofList
  | _ => none

/-- The part of a value at a place. Escapes are undone only in the names of members. -/
def at? : Pointer → Json → Option Json
  | [], v => some v
  | step :: rest, .obj fields =>
    (Json.Fields.get? (String.ofList (unescapeStep step.toList)) fields).bind (at? rest)
  | step :: rest, .arr items => ((index? step).bind (items[·]?)).bind (at? rest)
  | _ :: _, _ => none

end Pointer

end ProfileBindings.Schema
