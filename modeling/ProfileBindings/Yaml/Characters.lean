import ProfileBindings.Yaml.Token

/-!
# Characters of YAML texts

The classes of characters that YAML distinguishes, and the gaps of white space inside a scalar that runs
over several lines: a single line break becomes a blank, further ones stay.

Main definitions: `isAllowed`, `isBreak`, `isBlank`, `isName`, `Cursor`, `Gap`, `Gap.read`.
-/

namespace ProfileBindings.Yaml

/-- Characters that may stand in a text. -/
def isAllowed (c : Char) : Bool :=
  let n := c.toNat
  n == 0x09 || n == 0x0A || n == 0x0D || (0x20 ≤ n && n ≤ 0x7E) || n == 0x85
    || (0xA0 ≤ n && n ≤ 0xD7FF) || (0xE000 ≤ n && n ≤ 0xFFFD) || 0x10000 ≤ n

/-- Line breaks. -/
def isBreak (c : Char) : Bool :=
  c == '\n' || c == '\r' || c == '\u0085' || c == '\u2028' || c == '\u2029'

/-- Blanks and tabs. -/
def isBlank (c : Char) : Bool := c == ' ' || c == '\t'

/-- The characters of names of anchors, handles and directives. -/
def isName (c : Char) : Bool := c.isAlphanum || c == '_' || c == '-'

/-- The text is over or goes on with white space. -/
def atBlank : List Char → Bool
  | [] => true
  | c :: _ => isBlank c || isBreak c

/-- The line is over. -/
def atLineEnd : List Char → Bool
  | [] => true
  | c :: _ => isBreak c

/-- What a line break stands for: breaks of old are newlines, the separators of lines and paragraphs stand
for themselves. -/
def breakText (c : Char) : Char := if c == '\u2028' || c == '\u2029' then c else '\n'

/-- What is ahead in a text, and its place. -/
structure Cursor where
  rest : List Char
  mark : Mark

namespace Cursor

/-- The cursor so many characters further on the line. -/
def skip (c : Cursor) (count : Nat) : Cursor :=
  ⟨c.rest.drop count, c.mark.advance (c.rest.take count)⟩

/-- The cursor behind the characters that satisfy a test. -/
def skipWhile (p : Char → Bool) (c : Cursor) : Cursor :=
  let taken := c.rest.takeWhile p
  ⟨c.rest.drop taken.length, c.mark.advance taken⟩

/-- The character that is ahead. -/
def head? (c : Cursor) : Option Char := c.rest.head?

/-- A line break with the cursor behind it. A carriage return and the newline behind it are one break. -/
def takeBreak? (c : Cursor) : Option (Char × Cursor) :=
  match c.rest with
  | '\r' :: '\n' :: rest => some ('\n', ⟨rest, c.mark.nextLine 2⟩)
  | b :: rest => if isBreak b then some (breakText b, ⟨rest, c.mark.nextLine b.utf8Size⟩) else none
  | [] => none

/-- The cursor behind a line break, if one is ahead. -/
def skipBreak (c : Cursor) : Cursor :=
  match c.takeBreak? with
  | some (_, c) => c
  | none => c

/-- The cursor at the end of the line. -/
def skipLine (c : Cursor) : Cursor := c.skipWhile fun x => !isBreak x

/-- The cursor behind blanks and tabs. -/
def skipBlanks (c : Cursor) : Cursor := c.skipWhile isBlank

/-- The line begins with a mark that starts or ends a document. -/
def atDocumentMark (c : Cursor) : Bool :=
  c.mark.column == 0 &&
    match c.rest with
    | '-' :: '-' :: '-' :: rest => atBlank rest
    | '.' :: '.' :: '.' :: rest => atBlank rest
    | _ => false

end Cursor

/-- White space inside a scalar. -/
structure Gap where
  /-- Blanks in front of the first line break. -/
  blanks : List Char
  /-- The first line break. -/
  first : Option Char
  /-- Further line breaks. -/
  others : List Char
  /-- A line has ended. -/
  broken : Bool

namespace Gap

/-- No white space. -/
def none : Gap := ⟨[], .none, [], false⟩

/-- A line has ended by an escape, which leaves nothing behind. -/
def escaped : Gap := ⟨[], .none, [], true⟩

/-- What a gap stands for. -/
def text (g : Gap) : List Char :=
  if g.broken then
    match g.first with
    | some '\n' => if g.others.isEmpty then [' '] else g.others
    | some b => b :: g.others
    | .none => g.others
  else g.blanks

/-- The gap with a further line break. -/
def addBreak (g : Gap) (b : Char) : Gap :=
  if g.broken then { g with others := g.others ++ [b] } else ⟨[], some b, [], true⟩

/-- The gap with a further blank, which counts only on the first line. -/
def addBlank (g : Gap) (c : Char) : Gap :=
  if g.broken then g else { g with blanks := g.blanks ++ [c] }

/-- Read white space. A tab on a later line may not stand left of `indent`; that fault gives `none`. -/
def read (indent : Int) (g : Gap) : List Char → Mark → Option (Gap × Cursor)
  | '\r' :: '\n' :: rest, m => read indent (g.addBreak '\n') rest (m.nextLine 2)
  | c :: rest, m =>
    if isBreak c then read indent (g.addBreak (breakText c)) rest (m.nextLine c.utf8Size)
    else if isBlank c then
      if c == '\t' && g.broken && (m.column : Int) < indent then .none
      else read indent (g.addBlank c) rest (m.step c)
    else some (g, ⟨c :: rest, m⟩)
  | [], m => some (g, ⟨[], m⟩)

end Gap

end ProfileBindings.Yaml
