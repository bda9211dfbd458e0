import ProfileBindings.Unicode.CategoryRuns
import ProfileBindings.Unicode.Ranges

/-!
# General categories

What kind of character a code point stands for.

Main definitions: `Category`, `Category.ofCode?`, `categoryOf`.
-/

namespace ProfileBindings.Unicode

/-- The general categories. -/
inductive Category where
  | uppercaseLetter
  | lowercaseLetter
  | titlecaseLetter
  | modifierLetter
  | otherLetter
  | nonspacingMark
  | spacingMark
  | enclosingMark
  | decimalNumber
  | letterNumber
  | otherNumber
  | connectorPunctuation
  | dashPunctuation
  | openPunctuation
  | closePunctuation
  | initialPunctuation
  | finalPunctuation
  | otherPunctuation
  | mathSymbol
  | currencySymbol
  | modifierSymbol
  | otherSymbol
  | spaceSeparator
  | lineSeparator
  | paragraphSeparator
  | control
  | format
  | surrogate
  | privateUse
  | unassigned
deriving DecidableEq, Repr

namespace Category

/-- The categories by the two letters that they are known by. -/
def codes : List (String × Category) := [
  ("Lu", uppercaseLetter), ("Ll", lowercaseLetter), ("Lt", titlecaseLetter), ("Lm", modifierLetter),
  ("Lo", otherLetter), ("Mn", nonspacingMark), ("Mc", spacingMark), ("Me", enclosingMark),
  ("Nd", decimalNumber), ("Nl", letterNumber), ("No", otherNumber), ("Pc", connectorPunctuation),
  ("Pd", dashPunctuation), ("Ps", openPunctuation), ("Pe", closePunctuation),
  ("Pi", initialPunctuation), ("Pf", finalPunctuation), ("Po", otherPunctuation), ("Sm", mathSymbol),
  ("Sc", currencySymbol), ("Sk", modifierSymbol), ("So", otherSymbol), ("Zs", spaceSeparator),
  ("Zl", lineSeparator), ("Zp", paragraphSeparator), ("Cc", control), ("Cf", format),
  ("Cs", surrogate), ("Co", privateUse), ("Cn", unassigned)]

/-- The category that is known by two letters. -/
def ofCode? (code : String) : Option Category := codes.lookup code

end Category

/-- A run in writing: the letters of its category and its length. -/
def runOf? (run : List Char) : Option (Category × Nat) := do
  return (← Category.ofCode? (String.ofList (run.take 2)), ← Text.number? 10 (run.drop 2))

/-- The runs of the categories, from code point zero on. -/
def runs : List (Category × Nat) :=
  categoryRuns.flatMap fun line => (Text.segments (· == ' ') line.toList).filterMap runOf?

/-- The code points behind each of the runs that begin with a code point. -/
def runEnds : Nat → List (Category × Nat) → List Nat
  | _, [] => []
  | start, (_, length) :: rest => (start + length) :: runEnds (start + length) rest

/-- Where each run is over. -/
def ends : Array Nat := (runEnds 0 runs).toArray

/-- The category of each run. -/
def kinds : Array Category := (runs.map Prod.fst).toArray

/-- The general category of a code point. -/
def categoryOf (n : Nat) : Category := kinds.getD (countUpTo ends n) .unassigned

end ProfileBindings.Unicode
