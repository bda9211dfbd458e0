import ProfileBindings.Text.Words
import ProfileBindings.Unicode.Derived

/-!
# Quoted texts

How a text is shown inside a message: between double quotes, on one line, with everything that a reader
could not see written as an escape. A quote, a backslash and the common control characters have short
escapes; any other character that prints nothing, and a combining character, is written by its number.

Main definitions: `isPrintable` and `isExtender` (what a character shows), `quotedChar` (the escape of one
character) and `quoted` (the whole text).
-/

namespace ProfileBindings.Text

open Unicode.Category in
/-- The categories of characters that show nothing. -/
def blankCategories : List Unicode.Category :=
  [control, format, surrogate, privateUse, unassigned, lineSeparator, paragraphSeparator,
    spaceSeparator]

/-- The character shows something on a page (the space included). -/
def isPrintable (c : Char) : Bool :=
  c == ' ' ||
    !(blankCategories.contains (Unicode.categoryOf c.toNat) || Unicode.isDefaultIgnorable c.toNat)

/-- The character attaches itself to the one before it, such as a combining accent. -/
def isExtender (c : Char) : Bool := Unicode.isGraphemeExtend c.toNat

/-- One character of a quoted text. -/
def quotedChar (c : Char) : String :=
  if c == '\x00' then "\\0"
  else if c == '\t' then "\\t"
  else if c == '\r' then "\\r"
  else if c == '\n' then "\\n"
  else if c == '\\' then "\\\\"
  else if c == '"' then "\\\""
  else if isExtender c || !isPrintable c then "\\u\x7b" ++ lowerHex c.toNat ++ "\x7d"
  else c.toString

/-- The text between double quotes, escaped character by character. -/
def quoted (s : String) : String := "\"" ++ String.join (s.toList.map quotedChar) ++ "\""

end ProfileBindings.Text
