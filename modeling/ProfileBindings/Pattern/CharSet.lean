import ProfileBindings.Unicode.Derived
import ProfileBindings.Unicode.Folding

/-!
# Sets of characters

A set of characters is the test for its members, so that the sets of a pattern are put together by the
operations on tests.

Main definitions: `CharSet` with `ranges`, `union`, `complement` and `caseless`, and the sets that have
names: `asciiClass?`, `lineChars`.
-/

namespace ProfileBindings

/-- A set of characters. -/
abbrev CharSet := Char → Bool

namespace CharSet

/-- The characters of ranges. -/
def ranges (list : List (Char × Char)) : CharSet :=
  fun c => list.any fun range => range.1 ≤ c && c ≤ range.2

/-- One character. -/
def single (c : Char) : CharSet := ranges [(c, c)]

/-- No character. -/
def empty : CharSet := ranges []

/-- The characters of either set. -/
def union (s t : CharSet) : CharSet := fun c => s c || t c

/-- The characters of both sets. -/
def intersection (s t : CharSet) : CharSet := fun c => s c && t c

/-- The characters of the first set that are not in the second one. -/
def difference (s t : CharSet) : CharSet := fun c => s c && !t c

/-- The characters that are in one of two sets only. -/
def symmetricDifference (s t : CharSet) : CharSet := fun c => s c != t c

/-- The characters outside of a set. -/
def complement (s : CharSet) : CharSet := fun c => !s c

/-- The characters that differ from a member of the set only in case. -/
def caseless (s : CharSet) : CharSet := fun c => (Unicode.variants c).any s

/-- The characters whose code points have a property. -/
def having (property : Nat → Bool) : CharSet := fun c => property c.toNat

/-! ## Sets with names -/

/-- Digits of ASCII. -/
def digits : CharSet := ranges [('0', '9')]

/-- Letters, digits and underscore of ASCII. -/
def wordChars : CharSet := ranges [('A', 'Z'), ('a', 'z'), ('0', '9'), ('_', '_')]

/-- Blanks and line ends: those of ASCII and a few others. -/
def blanks : CharSet :=
  ranges [(' ', ' '), ('\t', '\r'), ('\u00a0', '\u00a0'), ('\ufeff', '\ufeff'), ('\u2003', '\u2003'),
    ('\u2029', '\u2029')]

/-- Digits of base 16. -/
def hexDigits : CharSet := ranges [('0', '9'), ('A', 'F'), ('a', 'f')]

/-- Decimal digits of all scripts. -/
def decimals : CharSet := having fun n => Unicode.categoryOf n = .decimalNumber

/-- Characters of words in all scripts. -/
def words : CharSet := having Unicode.isWord

/-- White space of all kinds. -/
def spaces : CharSet := having Unicode.whiteSpace.contains

/-- Any character of a line. -/
def lineChars : CharSet := complement (single '\n')

/-- Every character. -/
def all : CharSet := complement empty

/-- The classes of ASCII by name. -/
def asciiClass? (name : String) : Option CharSet :=
  match name with
  | "alnum" => some (ranges [('0', '9'), ('A', 'Z'), ('a', 'z')])
  | "alpha" => some (ranges [('A', 'Z'), ('a', 'z')])
  | "ascii" => some (ranges [('\x00', '\x7f')])
  | "blank" => some (ranges [('\t', '\t'), (' ', ' ')])
  | "cntrl" => some (ranges [('\x00', '\x1f'), ('\x7f', '\x7f')])
  | "digit" => some digits
  | "graph" => some (ranges [('!', '~')])
  | "lower" => some (ranges [('a', 'z')])
  | "print" => some (ranges [(' ', '~')])
  | "punct" => some (ranges [('!', '/'), (':', '@'), ('[', '\x60'), ('\x7b', '~')])
  | "space" => some (ranges [('\t', '\r'), (' ', ' ')])
  | "upper" => some (ranges [('A', 'Z')])
  | "word" => some wordChars
  | "xdigit" => some hexDigits
  | _ => none

end CharSet

end ProfileBindings
