import ProfileBindings.Enumerator.Names

/-!
# Enumerators of a header

The enumerators that a header of the runtime declares: every word outside comments that begins like an
enumerator. Comments are those of C; text between quotes is not looked at specially, and a comment keeps
the words on its two sides apart.

Main definitions:
* `Header.code` : a text with its comments blanked out;
* `Header.words` : the words of a text;
* `Header.declared` : the enumerators of a header;
* `Header.unknown` : enumerators of a document that the header does not declare.
-/

namespace ProfileBindings.Header

/-- Where a scan of a text stands. A block comment remembers whether the last character was a star; the
star that opened the comment does not count. -/
inductive Zone where
  | code
  | lineComment
  | blockComment (afterStar : Bool)
deriving DecidableEq, Repr

/-- A text without its comments. A line comment is replaced by the newline that ends it, a block comment by
a blank; a block comment that is never closed runs to the end. -/
def codeFrom : Zone → List Char → List Char
  | .code, [] => []
  | .code, '/' :: '/' :: rest => codeFrom .lineComment rest
  | .code, '/' :: '*' :: rest => codeFrom (.blockComment false) rest
  | .code, c :: rest => c :: codeFrom .code rest
  | .lineComment, [] => []
  | .lineComment, c :: rest => if c = '\n' then '\n' :: codeFrom .code rest else codeFrom .lineComment rest
  | .blockComment _, [] => [' ']
  | .blockComment afterStar, c :: rest =>
    if afterStar && c == '/' then ' ' :: codeFrom .code rest
    else codeFrom (.blockComment (c == '*')) rest

/-- The text without its comments. -/
def code (text : String) : List Char := codeFrom .code text.toList

/-- The runs of word characters, empty ones between other characters included. -/
def words (cs : List Char) : List String :=
  (Text.segments (fun c => !Text.isWordChar c) cs).map String.ofList

/-- The words that begin like an enumerator of one direction. -/
def enumerators (direction : Direction) (names : List String) : List String :=
  names.filter fun name => Direction.ofEnumerator? name = some direction

/-- The enumerators that a header declares. -/
def declared (text : String) : EnumeratorNames :=
  let names := words (code text)
  { inputs := .ofList (enumerators .input names)
    outputs := .ofList (enumerators .output names) }

/-- The header declares nothing. -/
def declaresNothing (known : EnumeratorNames) : Bool :=
  known.inputs.toList.isEmpty && known.outputs.toList.isEmpty

/-- An enumerator that a document refers to and the header does not declare. -/
structure Unknown where
  direction : Direction
  name : String
deriving DecidableEq, Repr

/-- What is unknown, in words. -/
def Unknown.message (u : Unknown) : String :=
  u.direction.word ++ " enumerator '" ++ u.name ++ "' is not declared by the runtime"

/-- The enumerators of one direction that are not declared. -/
def unknownIn (known names : EnumeratorNames) (direction : Direction) : List Unknown :=
  ((names.of direction).toList.filter fun name => !known.contains direction name).map (⟨direction, ·⟩)

/-- All enumerators that are not declared, inputs first. -/
def unknown (known names : EnumeratorNames) : List Unknown :=
  unknownIn known names .input ++ unknownIn known names .output

end ProfileBindings.Header
