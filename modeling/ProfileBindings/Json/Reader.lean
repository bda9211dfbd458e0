import ProfileBindings.Json.Number
import ProfileBindings.Text.Words

/-!
# Reading JSON texts

`Json.read` turns a text into a value or says why and where it fails. Containers may be nested 127 deep.
The reader is built from the inside out: the value reader for containers of depth `d + 1` is a loop over
the one of depth `d`, and every loop is bounded by the length of the text that is left.

Main definitions:
* `readString` : a string behind its opening quote;
* `readItems`, `readMembers` : the inside of a list and of an object;
* `readValue` : a value with containers up to a given depth;
* `read` : a whole text.
-/

namespace ProfileBindings.Json

/-- Blanks between the tokens of a text. -/
def isBlank (c : Char) : Bool := c == ' ' || c == '\n' || c == '\t' || c == '\r'

/-- The text behind leading blanks. -/
def skipBlanks (cs : List Char) : List Char := cs.dropWhile isBlank

/-! ## Strings -/

/-- Four hexadecimal digits. The next four bytes are taken for them, whatever they are. -/
def readHex4 (cs : List Char) : Step Nat :=
  let invalid : Step Nat :=
    if byteCount cs < 4 then .error (.endInString, 0) else .error (.invalidEscape, byteCount cs - 4)
  match cs with
  | a :: b :: c :: d :: rest =>
    match Text.hexValue? a, Text.hexValue? b, Text.hexValue? c, Text.hexValue? d with
    | some a, some b, some c, some d => .ok (((a * 16 + b) * 16 + c) * 16 + d, rest)
    | _, _, _, _ => invalid
  | _ => invalid

/-- A character written by its number. Numbers of the high surrogates are followed by a second escape
with a low surrogate, and the two together stand for one character. -/
def readUnicodeEscape (cs : List Char) : Step Char :=
  (readHex4 cs).andThen fun n rest =>
  if 0xDC00 ≤ n && n ≤ 0xDFFF then faultHere .loneSurrogate rest
  else if n < 0xD800 || 0xDBFF < n then .ok (Char.ofNat n, rest)
  else match rest with
    | [] => faultHere .endInString []
    | '\\' :: [] => faultHere .endInString []
    | '\\' :: 'u' :: rest =>
      (readHex4 rest).andThen fun low rest =>
      if low < 0xDC00 || 0xDFFF < low then faultHere .loneSurrogate rest
      else .ok (Char.ofNat ((n - 0xD800) * 0x400 + (low - 0xDC00) + 0x10000), rest)
    | '\\' :: rest => faultAhead .endOfSurrogate rest
    | rest => faultAhead .endOfSurrogate rest

/-- The character that an escape stands for, behind its backslash. -/
def readEscape : List Char → Step Char
  | [] => faultHere .endInString []
  | '"' :: rest => .ok ('"', rest)
  | '\\' :: rest => .ok ('\\', rest)
  | '/' :: rest => .ok ('/', rest)
  | 'b' :: rest => .ok ('\x08', rest)
  | 'f' :: rest => .ok ('\x0c', rest)
  | 'n' :: rest => .ok ('\n', rest)
  | 'r' :: rest => .ok ('\r', rest)
  | 't' :: rest => .ok ('\t', rest)
  | 'u' :: rest => readUnicodeEscape rest
  | cs => faultAhead .invalidEscape cs

/-- A string up to and including its closing quote; `seen` holds its characters, last one first. -/
def readStringLoop : Nat → List Char → List Char → Step String
  | 0, _, rest => faultHere .endInString rest
  | fuel + 1, seen, rest =>
    match rest with
    | [] => faultHere .endInString []
    | '"' :: rest => .ok (String.ofList seen.reverse, rest)
    | '\\' :: rest =>
      (readEscape rest).andThen fun c rest =>
      readStringLoop fuel (c :: seen) rest
    | c :: rest =>
      if c.toNat < 0x20 then faultHere .controlCharacter rest
      else readStringLoop fuel (c :: seen) rest

/-- A string behind its opening quote. -/
def readString (cs : List Char) : Step String := readStringLoop (cs.length + 1) [] cs

/-! ## Words -/

/-- The rest of a word whose first letter has been read. -/
def readWord (value : Json) : List Char → List Char → Step Json
  | [], rest => .ok (value, rest)
  | _ :: _, [] => faultHere .endInValue []
  | w :: ws, c :: rest => if w == c then readWord value ws rest else faultAhead .expectedWord (c :: rest)

/-! ## Containers -/

/-- The items of a list, behind its opening bracket or behind an item, up to and including the closing
bracket; `seen` holds the items, last one first. -/
def readItems (item : List Char → Step Json) : Nat → List Json → List Char → Step (List Json)
  | 0, _, rest => faultHere .endInList rest
  | fuel + 1, seen, rest =>
    match skipBlanks rest with
    | [] => faultHere .endInList []
    | ']' :: rest => .ok (seen.reverse, rest)
    | c :: rest =>
      if seen.isEmpty then
        (item (c :: rest)).andThen fun v rest =>
        readItems item fuel (v :: seen) rest
      else if c == ',' then
        match skipBlanks rest with
        | [] => faultHere .endInValue []
        | ']' :: rest => faultAhead .trailingComma (']' :: rest)
        | rest =>
          (item rest).andThen fun v rest =>
          readItems item fuel (v :: seen) rest
      else faultAhead .expectedListEnd (c :: rest)

/-- One member of an object, behind the opening quote of its key. -/
def readMember (item : List Char → Step Json) (cs : List Char) : Step (String × Json) :=
  (readString cs).andThen fun key rest =>
  match skipBlanks rest with
  | [] => faultHere .endInObject []
  | ':' :: rest =>
    (item rest).andThen fun value rest =>
    .ok ((key, value), rest)
  | rest => faultAhead .expectedColon rest

/-- The members of an object, behind its opening brace or behind a member, up to and including the
closing brace. `first` holds before the first member. -/
def readMembers (item : List Char → Step Json) : Nat → Bool → Fields → List Char → Step Fields
  | 0, _, _, rest => faultHere .endInObject rest
  | fuel + 1, first, seen, rest =>
    match skipBlanks rest with
    | [] => faultHere .endInObject []
    | '\x7d' :: rest => .ok (seen, rest)
    | c :: rest =>
      if first then
        if c == '"' then
          (readMember item rest).andThen fun member rest =>
          readMembers item fuel false (seen.insert member.1 member.2) rest
        else faultAhead .keyNotString (c :: rest)
      else if c == ',' then
        match skipBlanks rest with
        | [] => faultHere .endInValue []
        | '"' :: rest =>
          (readMember item rest).andThen fun member rest =>
          readMembers item fuel false (seen.insert member.1 member.2) rest
        | '\x7d' :: rest => faultAhead .trailingComma ('\x7d' :: rest)
        | rest => faultAhead .keyNotString rest
      else faultAhead .expectedObjectEnd (c :: rest)

/-- A value, given the readers for the inside of lists and of objects. -/
def readValueWith (list object : List Char → Step Json) (cs : List Char) : Step Json :=
  match skipBlanks cs with
  | [] => faultHere .endInValue []
  | c :: rest =>
    if c == 'n' then readWord .null ['u', 'l', 'l'] rest
    else if c == 't' then readWord (.bool true) ['r', 'u', 'e'] rest
    else if c == 'f' then readWord (.bool false) ['a', 'l', 's', 'e'] rest
    else if c == '-' then readNumber false rest
    else if c.isDigit then readNumber true (c :: rest)
    else if c == '"' then
      (readString rest).andThen fun s rest =>
      .ok (.str s, rest)
    else if c == '[' then list rest
    else if c == '\x7b' then object rest
    else faultAhead .expectedValue (c :: rest)

/-- A value with containers nested up to `depth`. A container beyond that is refused at its bracket. -/
def readValue : (depth : Nat) → List Char → Step Json
  | 0 =>
    let refuse (rest : List Char) : Step Json := faultHere .tooDeep rest
    readValueWith refuse refuse
  | depth + 1 =>
    readValueWith
      (fun rest =>
        (readItems (readValue depth) (rest.length + 1) [] rest).andThen fun items rest =>
        .ok (.arr items, rest))
      (fun rest =>
        (readMembers (readValue depth) (rest.length + 1) true [] rest).andThen fun fields rest =>
        .ok (.obj fields, rest))

/-- How deep containers may be nested. -/
def depthLimit : Nat := 127

/-- A whole text: one value between blanks. -/
def read (text : String) : Except ReadError Json :=
  let located (fault : Cause × Nat) : ReadError :=
    let bytes := text.toUTF8.toList
    ⟨fault.1, Place.behind (bytes.take (bytes.length - fault.2))⟩
  match readValue depthLimit text.toList with
  | .error fault => .error (located fault)
  | .ok (value, rest) =>
    match skipBlanks rest with
    | [] => .ok value
    | rest => .error (located (.trailingCharacters, byteCount rest - 1))

end ProfileBindings.Json
