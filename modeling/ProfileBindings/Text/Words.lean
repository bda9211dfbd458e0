/-!
# Words and numerals

The character classes that C identifiers are made of, what digits stand for, and the few ways of cutting a
text apart that the rest of the library needs. Everything works on the list of characters, so that a
statement about a text is an induction on a list.

Main definitions:
* `isWordChar`, `isIdentifier` : letters, digits and underscore of ASCII, and the C identifiers over them;
* `segments` : the pieces between the characters that satisfy a test, empty pieces included;
* `hasPrefix`, `hasSuffix`, `contains` : the three ways in which one text occurs in another;
* `number?`, `lowerHex`, `charOf?` : numbers in bases up to 16, and the characters known by their numbers.
-/

namespace ProfileBindings.Text

/-- ASCII letters, ASCII digits and the underscore. -/
def isWordChar (c : Char) : Bool := c.isAlpha || c.isDigit || c == '_'

/-- A C identifier may start with a letter or an underscore, not with a digit. -/
def isWordStart (c : Char) : Bool := c.isAlpha || c == '_'

/-- A C identifier: a start character followed by word characters. The empty text is none. -/
def isIdentifier (s : String) : Bool :=
  match s.toList with
  | [] => false
  | c :: cs => isWordStart c && cs.all isWordChar

/-- A non-empty run of word characters: what may be pasted into the middle of an identifier. -/
def isWordRun (cs : List Char) : Bool := !cs.isEmpty && cs.all isWordChar

/-- The pieces of a text between the characters that satisfy `sep`. A text with `n` such characters has
`n + 1` pieces, some of which may be empty. -/
def segments (sep : Char → Bool) : List Char → List (List Char)
  | [] => [[]]
  | c :: cs =>
    if sep c then [] :: segments sep cs
    else match segments sep cs with
      | [] => [[c]]
      | piece :: pieces => (c :: piece) :: pieces

/-- `s` starts with `start`. -/
def hasPrefix (start s : String) : Bool := start.toList.isPrefixOf s.toList

/-- `s` ends with `ending`. -/
def hasSuffix (ending s : String) : Bool := ending.toList.isSuffixOf s.toList

/-- The text after a given beginning, if it has that beginning. -/
def dropPrefix? : List Char → List Char → Option (List Char)
  | [], cs => some cs
  | _ :: _, [] => none
  | p :: ps, c :: cs => if p == c then dropPrefix? ps cs else none

/-- `part` occurs somewhere in `s`. The empty text occurs everywhere. -/
def occursIn (part : List Char) : List Char → Bool
  | [] => part.isEmpty
  | c :: cs => part.isPrefixOf (c :: cs) || occursIn part cs

/-- `part` occurs somewhere in `s`. -/
def contains (part s : String) : Bool := occursIn part.toList s.toList

theorem segments_ne_nil (sep : Char → Bool) (cs : List Char) : segments sep cs ≠ [] := by
  cases cs with
  | nil => simp [segments]
  | cons c cs =>
    simp only [segments]
    split
    · simp
    · split <;> simp

/-! ## Numerals -/

/-- The number that a hexadecimal digit stands for. -/
def hexValue? (c : Char) : Option Nat :=
  if c.isDigit then some (c.toNat - '0'.toNat)
  else if 'a' ≤ c && c ≤ 'f' then some (c.toNat - 'a'.toNat + 10)
  else if 'A' ≤ c && c ≤ 'F' then some (c.toNat - 'A'.toNat + 10)
  else none

/-- The number that digits of a base stand for. There has to be a digit. -/
def number? (base : Nat) (cs : List Char) : Option Nat :=
  if cs.isEmpty then none
  else cs.foldl (fun n c => do
    let d ← hexValue? c
    if d < base then return (← n) * base + d else none) (some 0)

/-- The digits of a number in base 16, in small letters. -/
def lowerHex (n : Nat) : String := String.ofList (Nat.toDigits 16 n)

/-- The character with a number; surrogates and numbers beyond Unicode have none. -/
def charOf? (n : Nat) : Option Char :=
  if (0xD800 ≤ n && n ≤ 0xDFFF) || 0x10FFFF < n then none else some (Char.ofNat n)

end ProfileBindings.Text
