import ProfileBindings.Pattern.Basic
import ProfileBindings.Text.Words
import ProfileBindings.Unicode.Names

/-!
# Sets in brackets, and escapes

What stands for one character or for a set of characters in a pattern: an escape, or members and ranges
between brackets. Brackets may stand inside brackets, and the sets of their sides are intersected by `&&`,
subtracted by `--` and compared by `~~`. Where case does not matter, a set is widened before it is negated.

Main definitions:
* `Stop` : why reading stops;
* `Manner` : how a pattern is read;
* `readEscape` : what stands behind a backslash;
* `readBrackets` : what stands behind an opening bracket.
-/

namespace ProfileBindings.Pattern

/-- Why the reading of a pattern stops. -/
inductive Stop where
  /-- The text is not a pattern. -/
  | malformed
  /-- The pattern refers back or looks around. -/
  | extended
  /-- A control character is written by a letter; `rest` is behind the letter. -/
  | control (letter : Char) (rest : List Char)

/-- What has been read, and the text behind it. -/
abbrev Found (α : Type) := α × List Char

/-- How a pattern is read. -/
structure Manner where
  /-- White space and comments mean nothing. -/
  spaced : Bool
  /-- Case does not matter. -/
  caseless : Bool
  /-- The short names of sets stand for characters of all scripts. -/
  worldwide : Bool

/-- White space. -/
def isSpace (c : Char) : Bool := Unicode.whiteSpace.contains c.toNat

/-- The text behind white space and comments. -/
def skipSpaces : Nat → List Char → List Char
  | 0, cs => cs
  | _ + 1, [] => []
  | fuel + 1, c :: rest =>
    if isSpace c then skipSpaces fuel rest
    else if c == '#' then skipSpaces fuel ((rest.dropWhile (· != '\n')).drop 1)
    else c :: rest

namespace Manner

/-- Go over white space, if it means nothing. -/
def skip (m : Manner) (cs : List Char) : List Char :=
  if m.spaced then skipSpaces cs.length cs else cs

/-- A set as it is meant. -/
def close (m : Manner) (negated : Bool) (set : CharSet) : CharSet :=
  let widened := if m.caseless then set.caseless else set
  if negated then widened.complement else widened

/-- The set that a letter is short for, behind a backslash. -/
def shorthand? (m : Manner) (c : Char) : Option CharSet :=
  let short (narrow wide : CharSet) (negated : Bool) : CharSet :=
    if m.worldwide then (if negated then wide.complement else wide) else m.close negated narrow
  match c with
  | 'd' => some (short .digits .decimals false)
  | 'D' => some (short .digits .decimals true)
  | 'w' => some (short .wordChars .words false)
  | 'W' => some (short .wordChars .words true)
  | 's' => some (short .blanks .spaces false)
  | 'S' => some (short .blanks .spaces true)
  | _ => none

end Manner

/-! ## Escapes -/

/-- What an escape stands for. -/
inductive Primitive where
  | literal (c : Char)
  | set (s : CharSet)
  | place (p : Place)

/-- The characters that mean something in patterns. -/
def isMeta (c : Char) : Bool :=
  c ∈ ['\\', '.', '+', '*', '?', '(', ')', '|', '[', ']', '\x7b', '\x7d', '^', '$', '#', '&', '-', '~']

/-- The characters that stand for themselves behind a backslash. -/
def isEscapable (c : Char) : Bool := c.toNat < 0x80 && !c.isAlphanum && c != '<' && c != '>'

/-- The characters that are written by a backslash and a letter. -/
def letterEscapes : List (Char × Char) :=
  [('a', '\x07'), ('f', '\x0c'), ('t', '\t'), ('n', '\n'), ('r', '\r'), ('v', '\x0b')]

/-- The places that are written by a backslash and another character. -/
def placeEscapes : List (Char × Place) :=
  [('A', .start), ('z', .finish), ('b', .wordEdge), ('B', .noWordEdge), ('<', .wordStart),
    ('>', .wordFinish)]

/-- How many digits the number of a character has. -/
def numberEscapes : List (Char × Nat) := [('x', 2), ('u', 4), ('U', 8)]

/-- So many characters, between which white space may mean nothing. -/
def readChars (m : Manner) : Nat → List Char → Except Stop (Found (List Char))
  | 0, cs => .ok ([], cs)
  | count + 1, cs =>
    match m.skip cs with
    | [] => .error .malformed
    | c :: rest => do
      let (others, rest) ← readChars m count rest
      return (c :: others, rest)

/-- The characters up to a closing brace. -/
def readBraced (m : Manner) : Nat → List Char → Except Stop (Found (List Char))
  | 0, _ => .error .malformed
  | fuel + 1, cs =>
    match m.skip cs with
    | [] => .error .malformed
    | '\x7d' :: rest => .ok ([], rest)
    | c :: rest => do
      let (others, rest) ← readBraced m fuel rest
      return (c :: others, rest)

/-- A character by its number, in so many digits or between braces. -/
def readNumber (m : Manner) (count : Nat) (cs : List Char) : Except Stop (Found Primitive) := do
  let (digits, rest) ← match m.skip cs with
    | '\x7b' :: rest => readBraced m (rest.length + 1) rest
    | cs => readChars m count cs
  match (Text.number? 16 digits).bind Text.charOf? with
  | some c => return (.literal c, rest)
  | none => .error .malformed

/-- The part of a text in front of a mark and the part behind it. -/
def splitAt? (mark : List Char) : List Char → Option (List Char × List Char)
  | [] => none
  | c :: rest =>
    if mark.isPrefixOf (c :: rest) then some ([], (c :: rest).drop mark.length)
    else (splitAt? mark rest).map fun parts => (c :: parts.1, parts.2)

/-- A property by its name; the name may be negated. -/
def namedProperty? (name : List Char) : Option (Bool × (Nat → Bool)) :=
  let valued (parts : List Char × List Char) := Unicode.propertyWithValue? parts.1 parts.2
  match splitAt? ['!', '='] name, splitAt? [':'] name, splitAt? ['='] name with
  | some parts, _, _ => (valued parts).map (true, ·)
  | none, some parts, _ => (valued parts).map (false, ·)
  | none, none, some parts => (valued parts).map (false, ·)
  | none, none, none => (Unicode.propertyNamed? name).map (false, ·)

/-- The characters that have a property, or those that have not. -/
def readProperty (m : Manner) (negated : Bool) (cs : List Char) : Except Stop (Found Primitive) := do
  let (name, rest) ← match m.skip cs with
    | [] => .error .malformed
    | '\x7b' :: rest => readBraced m (rest.length + 1) rest
    | c :: rest => if c == '\\' then .error .malformed else .ok ([c], rest)
  match namedProperty? name with
  | some (otherwise, holds) => return (.set (m.close (negated != otherwise) (.having holds)), rest)
  | none => .error .malformed

/-- What stands behind a backslash. -/
def readEscape (m : Manner) : List Char → Except Stop (Found Primitive)
  | [] => .error .malformed
  | c :: rest =>
    match numberEscapes.lookup c, m.shorthand? c, letterEscapes.lookup c, placeEscapes.lookup c with
    | some count, _, _, _ => readNumber m count rest
    | none, some set, _, _ => .ok (.set set, rest)
    | none, none, some x, _ => .ok (.literal x, rest)
    | none, none, none, some place => .ok (.place place, rest)
    | none, none, none, none =>
      if c.isDigit then .error .extended
      else if c == 'p' || c == 'P' then readProperty m (c == 'P') rest
      else if isEscapable c then .ok (.literal c, rest)
      else
        match c, rest with
        | 'c', letter :: rest =>
          .error (if letter.isAlpha then .control letter rest else .malformed)
        | _, _ => .error .malformed

/-! ## Brackets -/

/-- How the two sides of a set are joined. -/
inductive Joint where
  | intersection
  | difference
  | symmetricDifference

/-- Two sets joined. -/
def Joint.apply : Joint → CharSet → CharSet → CharSet
  | intersection => .intersection
  | difference => .difference
  | symmetricDifference => .symmetricDifference

/-- The side of a set that has been read, joined to what is in front of it. -/
def joined (m : Manner) (side : CharSet) : Option (CharSet × Joint) → CharSet
  | none => side
  | some (front, joint) => joint.apply (m.close false front) (m.close false side)

/-- The joint that a text starts with. -/
def readJoint? : List Char → Option (Joint × List Char)
  | '&' :: '&' :: rest => some (.intersection, rest)
  | '-' :: '-' :: rest => some (.difference, rest)
  | '~' :: '~' :: rest => some (.symmetricDifference, rest)
  | _ => none

/-- A class of ASCII between colons, behind an opening bracket. -/
def readAsciiClass? (m : Manner) : List Char → Option (CharSet × List Char)
  | ':' :: rest =>
    let (negated, rest) := match rest with
      | '^' :: rest => (true, rest)
      | rest => (false, rest)
    let name := rest.takeWhile (· != ':')
    match rest.drop name.length with
    | ':' :: ']' :: rest =>
      (CharSet.asciiClass? (String.ofList name)).map fun set => (m.close negated set, rest)
    | _ => none
  | _ => none

/-- An escape or a character that stands for itself. -/
def readMember (m : Manner) : List Char → Except Stop (Found Primitive)
  | [] => .error .malformed
  | '\\' :: rest => readEscape m rest
  | c :: rest => .ok (.literal c, rest)

/-- The set of a member; a place is none. -/
def Primitive.toSet : Primitive → Except Stop CharSet
  | literal c => .ok (.single c)
  | set s => .ok s
  | place _ => .error .malformed

/-- The text goes on with a range: a hyphen that neither ends the set nor starts a joint. -/
def startsRange (m : Manner) : List Char → Bool
  | '-' :: rest =>
    match m.skip rest with
    | ']' :: _ => false
    | '-' :: _ => false
    | _ => true
  | _ => false

/-- A member or a range. -/
def readItem (m : Manner) (cs : List Char) : Except Stop (Found CharSet) := do
  let (low, rest) ← readMember m cs
  let rest := m.skip rest
  if rest.isEmpty then .error .malformed
  else if !startsRange m rest then return (← low.toSet, rest)
  else
    let (high, rest) ← readMember m (m.skip (rest.drop 1))
    match low, high with
    | .literal a, .literal b =>
      if a ≤ b then return (.ranges [(a, b)], rest) else .error .malformed
    | _, _ => .error .malformed

/-- The sides of a set up to the closing bracket, given the reader for brackets inside. -/
def readSides (m : Manner) (inner : List Char → Except Stop (Found CharSet)) :
    Nat → Option (CharSet × Joint) → CharSet → List Char → Except Stop (Found CharSet)
  | 0, _, _, _ => .error .malformed
  | fuel + 1, front, side, cs =>
    match m.skip cs with
    | [] => .error .malformed
    | ']' :: rest => .ok (joined m side front, rest)
    | '[' :: rest => do
      let (set, rest) ← match readAsciiClass? m rest with
        | some found => .ok found
        | none => inner rest
      readSides m inner fuel front (side.union set) rest
    | cs =>
      match readJoint? cs with
      | some (joint, rest) =>
        readSides m inner fuel (some (joined m side front, joint)) .empty rest
      | none => do
        let (set, rest) ← readItem m cs
        readSides m inner fuel front (side.union set) rest

/-- Hyphens at the start of a set, which stand for themselves. -/
def readHyphens (m : Manner) : Nat → List Char → Bool × List Char
  | 0, cs => (false, cs)
  | fuel + 1, '-' :: rest => (true, (readHyphens m fuel (m.skip rest)).2)
  | _ + 1, cs => (false, cs)

/-- A set behind its opening bracket, with brackets inside nested up to a depth. A closing bracket that comes
first stands for itself. -/
def readBrackets (m : Manner) : (depth : Nat) → List Char → Except Stop (Found CharSet)
  | 0, _ => .error .malformed
  | depth + 1, cs => do
    let (negated, cs) := match m.skip cs with
      | '^' :: rest => (true, m.skip rest)
      | cs => (false, cs)
    let (hyphens, cs) := readHyphens m cs.length cs
    let (first, cs) : CharSet × List Char := match hyphens, cs with
      | true, cs => (.single '-', cs)
      | false, ']' :: rest => (.single ']', rest)
      | false, cs => (.empty, cs)
    let (set, rest) ← readSides m (readBrackets m depth) (cs.length + 1) none first cs
    return (m.close negated set, rest)

/-- How deep brackets may be nested. -/
def bracketDepth : Nat := 250

end ProfileBindings.Pattern
