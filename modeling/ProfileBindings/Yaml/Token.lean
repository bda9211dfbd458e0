/-!
# YAML tokens

The words of a YAML text. Besides the marks that stand in the text there are tokens for what indentation
means: where a block sequence or a block mapping starts and where a block ends.

Main definitions: `Mark`, `Style`, `Tag`, `Token.Kind`, `Token`.
-/

namespace ProfileBindings.Yaml

/-- A place in a text: how many bytes are in front of it, and its line and its column in characters, from
zero. -/
structure Mark where
  index : Nat
  line : Nat
  column : Nat
deriving DecidableEq, Repr, Inhabited

namespace Mark

/-- The start of a text. -/
def start : Mark := ⟨0, 0, 0⟩

/-- The place behind a character of the line. -/
def step (m : Mark) (c : Char) : Mark := ⟨m.index + c.utf8Size, m.line, m.column + 1⟩

/-- The place behind characters of the line. -/
def advance (m : Mark) (passed : List Char) : Mark := passed.foldl step m

/-- The start of the next line, behind a line break of so many bytes. -/
def nextLine (m : Mark) (bytes : Nat) : Mark := ⟨m.index + bytes, m.line + 1, 0⟩

end Mark

/-- How a scalar is written. Only plain scalars can stand for anything but a text. -/
inductive Style where
  | plain
  | quoted
  | literal
  | folded
deriving DecidableEq, Repr

/-- A tag by its bytes. The escapes in a tag stand for bytes, and these need not be those of a text. -/
structure Tag where
  bytes : List UInt8
deriving DecidableEq, Repr

namespace Tag

/-- The tag that is a text. -/
def ofText (s : String) : Tag := ⟨s.toUTF8.toList⟩

/-- One tag behind the other. -/
def append (s t : Tag) : Tag := ⟨s.bytes ++ t.bytes⟩

/-- The tag that has no bytes. -/
def isEmpty (t : Tag) : Bool := t.bytes.isEmpty

end Tag

/-- The kinds of tokens. -/
inductive Token.Kind where
  | versionDirective (major minor : Nat)
  | tagDirective (handle : String) (replacement : Tag)
  | documentStart
  | documentEnd
  | streamEnd
  | blockSequenceStart
  | blockMappingStart
  | blockEnd
  | flowSequenceStart
  | flowSequenceEnd
  | flowMappingStart
  | flowMappingEnd
  | blockEntry
  | flowEntry
  | key
  | value
  | alias (name : String)
  | anchor (name : String)
  | tag (handle : String) (suffix : Tag)
  | scalar (text : String) (style : Style)
deriving DecidableEq, Repr

/-- A token with its place. -/
structure Token where
  kind : Token.Kind
  start : Mark
  stop : Mark
deriving DecidableEq, Repr

end ProfileBindings.Yaml
