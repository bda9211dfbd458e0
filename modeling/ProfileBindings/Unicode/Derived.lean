import ProfileBindings.Unicode.Category
import ProfileBindings.Unicode.Properties

/-!
# Derived properties

Properties that follow from the general category of a character and a few additions.

Main definitions: `isAlphabetic`, `isAlphanumeric`, `isLowercase`, `isUppercase`, `isGraphemeExtend`,
`isDefaultIgnorable`, `isWord`.
-/

namespace ProfileBindings.Unicode

open Category

/-- The categories of letters. -/
def letters : List Category :=
  [uppercaseLetter, lowercaseLetter, titlecaseLetter, modifierLetter, otherLetter]

/-- The categories of marks. -/
def marks : List Category := [nonspacingMark, spacingMark, enclosingMark]

/-- Letters, numbers of letters, and vowels that are written as marks. -/
def isAlphabetic (n : Nat) : Bool :=
  (letterNumber :: letters).contains (categoryOf n) || otherAlphabetic.contains n

/-- Letters and numbers of all kinds. -/
def isAlphanumeric (n : Nat) : Bool :=
  isAlphabetic n || [decimalNumber, letterNumber, otherNumber].contains (categoryOf n)

/-- Small letters. -/
def isLowercase (n : Nat) : Bool := categoryOf n = lowercaseLetter || otherLowercase.contains n

/-- Capital letters. -/
def isUppercase (n : Nat) : Bool := categoryOf n = uppercaseLetter || otherUppercase.contains n

/-- Characters that have a case. -/
def isCased (n : Nat) : Bool := isLowercase n || isUppercase n || categoryOf n = titlecaseLetter

/-- Characters that take no part in the case of a word. -/
def isCaseIgnorable (n : Nat) : Bool :=
  [nonspacingMark, enclosingMark, format, modifierLetter, modifierSymbol].contains (categoryOf n)
    || wordMiddle.contains n

/-- Characters of formulas. -/
def isMath (n : Nat) : Bool := categoryOf n = mathSymbol || otherMath.contains n

/-- Characters that are kept for patterns. -/
def isForPatterns (n : Nat) : Bool := patternSyntax.contains n || patternWhiteSpace.contains n

/-- Characters that an identifier may start with. -/
def isIdStart (n : Nat) : Bool :=
  ((letterNumber :: letters).contains (categoryOf n) || otherIdStart.contains n) && !isForPatterns n

/-- Characters that an identifier may go on with. -/
def isIdContinue (n : Nat) : Bool :=
  isIdStart n ||
    (([nonspacingMark, spacingMark, decimalNumber, connectorPunctuation].contains (categoryOf n)
      || otherIdContinue.contains n) && !isForPatterns n)

/-- Characters that an identifier in normal form may start with. -/
def isXidStart (n : Nat) : Bool := isIdStart n && !xidStartLoss.contains n

/-- Characters that an identifier in normal form may go on with. -/
def isXidContinue (n : Nat) : Bool := isIdContinue n && !xidContinueLoss.contains n

/-- Characters that attach themselves to the one before them, such as combining accents. -/
def isGraphemeExtend (n : Nat) : Bool :=
  [nonspacingMark, enclosingMark].contains (categoryOf n) || otherGraphemeExtend.contains n

/-- Characters that others attach themselves to. -/
def isGraphemeBase (n : Nat) : Bool :=
  !([control, format, surrogate, privateUse, unassigned, lineSeparator, paragraphSeparator].contains
      (categoryOf n) || isGraphemeExtend n)

/-- Marks between lines of notes, which show something if there is a shape for them. -/
def isAnnotationMark (n : Nat) : Bool := 0xFFF9 ≤ n && n ≤ 0xFFFB

/-- Marks that arrange hieroglyphs. -/
def isHieroglyphControl (n : Nat) : Bool := 0x13430 ≤ n && n ≤ 0x13440

/-- Characters that show nothing unless there is a shape for them. -/
def isDefaultIgnorable (n : Nat) : Bool :=
  (otherDefaultIgnorable.contains n || categoryOf n = format || variationSelector.contains n)
    && !(whiteSpace.contains n || isAnnotationMark n || isHieroglyphControl n
      || prependedConcatenationMark.contains n)

/-- Characters of words. -/
def isWord (n : Nat) : Bool :=
  isAlphabetic n || (decimalNumber :: connectorPunctuation :: marks).contains (categoryOf n)
    || joinControl.contains n

end ProfileBindings.Unicode
