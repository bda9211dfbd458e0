import ProfileBindings.Text.Words

/-!
# Literals and banners of C

A text between the quotes of a C string literal. Quote, backslash and the common control characters have
short escapes; every other control character of ASCII is written as three octal digits, so that a digit
behind it is not taken for part of the escape. Two question marks side by side could begin a trigraph, so
a question mark beside another one is escaped. Other characters stand for themselves, and the bytes of the
literal are those of the text.

The comment at the head of a generated file says which license the file has, if it has one, what it is, and
that it is not to be edited.

Main definitions: `Literal.escapeChar` (one character between its neighbours), `Literal.escape`, `C.lines`,
`C.Banner`, `Banner.print`.
-/

namespace ProfileBindings.C

namespace Literal

/-- Three octal digits. -/
def octal3 (n : Nat) : List Char :=
  [Nat.digitChar (n / 64 % 8), Nat.digitChar (n / 8 % 8), Nat.digitChar (n % 8)]

/-- The control characters of ASCII. -/
def isControl (c : Char) : Bool := c.toNat < 0x20 || c.toNat == 0x7f

/-- One character, given whether a question mark stands beside it. -/
def escapeChar (besideQuestion : Bool) (c : Char) : List Char :=
  if c == '?' && besideQuestion then ['\\', '?']
  else if c == '\\' then ['\\', '\\']
  else if c == '"' then ['\\', '"']
  else if c == '\n' then ['\\', 'n']
  else if c == '\r' then ['\\', 'r']
  else if c == '\t' then ['\\', 't']
  else if isControl c then '\\' :: octal3 c.toNat
  else [c]

/-- The characters of a literal; `before` is the character in front of them. -/
def escapeFrom (before : Option Char) : List Char → List Char
  | [] => []
  | c :: rest =>
    escapeChar (before == some '?' || rest.head? == some '?') c ++ escapeFrom (some c) rest

/-- The text as it stands between the quotes of a literal. -/
def escape (s : String) : String := String.ofList (escapeFrom none s.toList)

/-- The literal. -/
def quote (s : String) : String := "\"" ++ escape s ++ "\""

end Literal

/-! ## Banners -/

/-- Lines, each with its end. -/
def lines (l : List String) : String := String.join (l.map (· ++ "\n"))

/-- What the head of a file says. -/
structure Banner where
  /-- What the file is. -/
  brief : String
  /-- The group of files that it belongs to. -/
  group : String
  spdxLicense : Option String

/-- The line with the license. -/
def Banner.licenseLines (b : Banner) : List String :=
  match b.spdxLicense with
  | none => []
  | some license => ["// SPDX-License-Identifier: " ++ license]

/-- The comment. -/
def Banner.print (b : Banner) : String :=
  lines (b.licenseLines ++ [
    "/*!",
    " * @file",
    " * @brief  " ++ b.brief ++ ".",
    " *",
    " * Generated by xrbind from an interaction profile document.",
    " * Do not edit: changes are lost on the next build.",
    " *",
    " * @ingroup " ++ b.group,
    " */"])

end ProfileBindings.C
