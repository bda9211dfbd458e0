import ProfileBindings.Decimal.Shortest
import ProfileBindings.Json.Basic

/-!
# Writing JSON texts

Two layouts of a value as text. The compact one puts nothing between the tokens; the indented one puts
every item and every member on a line of its own, two blanks deeper than its container. Members are
written in their order, and a string is escaped only where the format demands it.

Main definitions:
* `writeChar`, `writeString` : one character, and a whole string between its quotes;
* `compact` : a value on one line;
* `indented` : a value over several lines.
-/

namespace ProfileBindings.Json

/-- The digit of base 16 in small letters. -/
def hexDigit (n : Nat) : Char := Nat.digitChar n

/-- One character of a string. -/
def writeChar (c : Char) : List Char :=
  if c == '"' then ['\\', '"']
  else if c == '\\' then ['\\', '\\']
  else if c == '\x08' then ['\\', 'b']
  else if c == '\x0c' then ['\\', 'f']
  else if c == '\n' then ['\\', 'n']
  else if c == '\r' then ['\\', 'r']
  else if c == '\t' then ['\\', 't']
  else if c.toNat < 0x20 then
    ['\\', 'u', '0', '0', hexDigit (c.toNat / 16), hexDigit (c.toNat % 16)]
  else [c]

/-- A string between its quotes. -/
def writeString (s : String) : String :=
  "\"" ++ String.ofList (s.toList.flatMap writeChar) ++ "\""

mutual

/-- A value on one line. -/
def compact : Json → String
  | null => "null"
  | bool true => "true"
  | bool false => "false"
  | int n => toString n
  | float bits => Decimal.write .document bits
  | str s => writeString s
  | arr items => "[" ++ ",".intercalate (compactItems items) ++ "]"
  | obj fields => "\x7b" ++ ",".intercalate (compactMembers fields) ++ "\x7d"

/-- The items of a list, each on one line. -/
def compactItems : List Json → List String
  | [] => []
  | v :: rest => compact v :: compactItems rest

/-- The members of an object, each on one line. -/
def compactMembers : List (String × Json) → List String
  | [] => []
  | (key, v) :: rest => (writeString key ++ ":" ++ compact v) :: compactMembers rest

end

/-- The blanks in front of a line. -/
def indentation (depth : Nat) : String := String.ofList (List.replicate (2 * depth) ' ')

/-- Lines between two brackets; nothing stands between the brackets of an empty container. -/
def bracketed (opening closing : String) (depth : Nat) (entries : List String) : String :=
  if entries.isEmpty then opening ++ closing
  else
    opening ++ "\n" ++ ",\n".intercalate (entries.map (indentation (depth + 1) ++ ·)) ++ "\n"
      ++ indentation depth ++ closing

mutual

/-- A value over several lines, inside `depth` containers. -/
def indentedAt (depth : Nat) : Json → String
  | arr items => bracketed "[" "]" depth (indentedItems (depth + 1) items)
  | obj fields => bracketed "\x7b" "\x7d" depth (indentedMembers (depth + 1) fields)
  | v => compact v

/-- The items of a list over several lines. -/
def indentedItems (depth : Nat) : List Json → List String
  | [] => []
  | v :: rest => indentedAt depth v :: indentedItems depth rest

/-- The members of an object over several lines. -/
def indentedMembers (depth : Nat) : List (String × Json) → List String
  | [] => []
  | (key, v) :: rest =>
    (writeString key ++ ": " ++ indentedAt depth v) :: indentedMembers depth rest

end

/-- A value over several lines. -/
def indented (v : Json) : String := indentedAt 0 v

end ProfileBindings.Json
