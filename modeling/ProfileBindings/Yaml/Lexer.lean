import ProfileBindings.Yaml.Tag

/-!
# From text to tokens

A text is cut into tokens from left to right. Whether a scalar is the key of a mapping is known only when the
colon behind it is found, on the same line and not too far away; until then the tokens from that scalar on
are held back, and the marks for the mapping are put in front of them afterwards. Where the text is
malformed the tokens end, those still held back being lost.

Main definitions:
* `PossibleKey` : a place at which the key of a mapping may have started;
* `Lexer` : a text that is partly cut into tokens;
* `Lexer.fetch?` : the next token;
* `tokens` : all tokens of a text up to its end or the first fault.
-/

namespace ProfileBindings.Yaml

/-- A place at which the key of a mapping may have started: the number of its first token. A required key
stands where nothing else than a key can. -/
structure PossibleKey where
  number : Nat
  required : Bool
  mark : Mark

/-- A text that is partly cut into tokens. -/
structure Lexer where
  cursor : Cursor
  /-- How many flow collections are open. -/
  flow : Nat
  /-- The column of the innermost block, `-1` outside of all. -/
  indent : Int
  /-- The columns of the blocks around it. -/
  outer : List Int
  /-- A key may start here. -/
  keyAllowed : Bool
  /-- The possible keys, one for each open flow collection and one outside; innermost first. -/
  keys : List (Option PossibleKey)
  /-- How many tokens have been released. -/
  released : Nat
  /-- The tokens that are held back. -/
  held : List Token
  /-- The end of the text has been reached. -/
  ended : Bool

namespace Lexer

/-- The start of a text. -/
def ofText (cs : List Char) : Lexer where
  cursor := ⟨cs, .start⟩
  flow := 0
  indent := -1
  outer := []
  keyAllowed := true
  keys := [none]
  released := 0
  held := []
  ended := false

/-- The place of the lexer. -/
def mark (l : Lexer) : Mark := l.cursor.mark

/-- The lexer is inside a flow collection. -/
def inFlow (l : Lexer) : Bool := l.flow ≠ 0

/-- Put a token behind the others. -/
def emit (l : Lexer) (kind : Token.Kind) (start stop : Mark) : Lexer :=
  { l with held := l.held ++ [⟨kind, start, stop⟩] }

/-- Put a token in front of the token with a number. -/
def emitAt (l : Lexer) (number : Nat) (kind : Token.Kind) (mark : Mark) : Lexer :=
  let index := number - l.released
  { l with held := l.held.take index ++ ⟨kind, mark, mark⟩ :: l.held.drop index }

/-- Go over some characters and emit a token for them. -/
def emitOver (l : Lexer) (kind : Token.Kind) (count : Nat) : Lexer :=
  let cursor := l.cursor.skip count
  { l with cursor }.emit kind l.mark cursor.mark

/-! ## Possible keys -/

/-- A key has to stand on one line and to be short. -/
def isStale (l : Lexer) (key : PossibleKey) : Bool :=
  key.mark.line < l.mark.line || key.mark.index + 1024 < l.mark.index

/-- Drop keys that are stale; a required one must not be. -/
def dropStale? (l : Lexer) : Option Lexer :=
  if l.keys.any fun key => key.any fun k => k.required && l.isStale k then none
  else some { l with keys := l.keys.map fun key => key.filter fun k => !l.isStale k }

/-- Drop the innermost key; a required one must not be dropped. -/
def dropKey? (l : Lexer) : Option Lexer :=
  match l.keys with
  | some key :: rest => if key.required then none else some { l with keys := none :: rest }
  | _ => some l

/-- Remember that a key may start here, if one may. -/
def saveKey? (l : Lexer) : Option Lexer :=
  if l.keyAllowed then do
    let key : PossibleKey :=
      ⟨l.released + l.held.length, !l.inFlow && l.indent = l.mark.column, l.mark⟩
    let l ← l.dropKey?
    return { l with keys := some key :: l.keys.drop 1 }
  else some l

/-! ## Indentation -/

/-- Start a block at a column, if it is to the right of the innermost one. The token is put in front of the
one with a number, or behind all. -/
def openBlock (l : Lexer) (column : Nat) (number : Option Nat) (kind : Token.Kind) (mark : Mark) :
    Lexer :=
  if l.inFlow || (column : Int) ≤ l.indent then l
  else
    let l := { l with indent := column, outer := l.indent :: l.outer }
    match number with
    | some n => l.emitAt n kind mark
    | none => l.emit kind mark mark

/-- End the blocks to the right of a column. -/
def closeBlocks (l : Lexer) (column : Int) : Lexer :=
  if l.inFlow then l else loop (l.outer.length + 1) l
where
  /-- End blocks one after the other. -/
  loop : Nat → Lexer → Lexer
    | 0, l => l
    | fuel + 1, l =>
      if column < l.indent then
        loop fuel { l.emit .blockEnd l.mark l.mark with
          indent := l.outer.head?.getD (-1), outer := l.outer.drop 1 }
      else l

/-! ## White space -/

/-- Go over white space and comments to the next token. Outside of flow collections a tab is white space
only where no key may start, and a new line may start a key. At the start of a line a mark for the order of
bytes is white space too. -/
def skipSpace (l : Lexer) : Lexer := loop (l.cursor.rest.length + 1) l
where
  /-- Go over one line after the other. -/
  loop : Nat → Lexer → Lexer
    | 0, l => l
    | fuel + 1, l =>
      let tabs := l.inFlow || !l.keyAllowed
      let c := l.cursor
      let c := if c.mark.column = 0 && c.head? == some '\ufeff' then c.skip 1 else c
      let c := c.skipWhile fun x => x == ' ' || (tabs && x == '\t')
      let c := if c.head? == some '#' then c.skipLine else c
      match c.takeBreak? with
      | some (_, c) => loop fuel { l with cursor := c, keyAllowed := l.keyAllowed || !l.inFlow }
      | none => { l with cursor := c }

/-! ## Directives -/

/-- A number of a version: up to nine digits. -/
def versionNumber? (c : Cursor) : Option (Nat × Cursor) :=
  let digits := c.rest.takeWhile Char.isDigit
  if digits.isEmpty || 9 < digits.length then none
  else some (digits.foldl (fun n d => n * 10 + (d.toNat - '0'.toNat)) 0, c.skip digits.length)

/-- What stands behind the name of a directive. -/
def directiveKind? (name : List Char) (c : Cursor) : Option (Token.Kind × Cursor) :=
  if name = "YAML".toList then do
    let (major, c) ← versionNumber? c.skipBlanks
    if c.head? != some '.' then none
    else do
      let (minor, c) ← versionNumber? (c.skip 1)
      return (.versionDirective major minor, c)
  else if name = "TAG".toList then do
    let (handle, c) ← readHandle c.skipBlanks
    if handle != ['!'] && !isClosedHandle handle then none
    else if !c.head?.any isBlank then none
    else do
      let (text, next) ← readSuffix true [] c.skipBlanks
      if atBlank next.rest then
        return (.tagDirective (String.ofList handle) text, next)
      else none
  else none

/-- A directive: its name, what stands behind it, and nothing else on the line. -/
def fetchDirective? (l : Lexer) : Option Lexer := do
  let start := l.mark
  let l ← (l.closeBlocks (-1)).dropKey?
  let c := l.cursor.skip 1
  let name := c.rest.takeWhile isName
  let c := c.skip name.length
  if name.isEmpty || !atBlank c.rest then none
  else do
    let (kind, c) ← directiveKind? name c
    let stop := c.mark
    let c := c.skipBlanks
    let c := if c.head? == some '#' then c.skipLine else c
    if atLineEnd c.rest then
      return { l.emit kind start stop with cursor := c.skipBreak, keyAllowed := false }
    else none

/-! ## Tokens -/

/-- The mark that starts or ends a document. -/
def fetchDocumentMark? (l : Lexer) (kind : Token.Kind) : Option Lexer := do
  let l ← (l.closeBlocks (-1)).dropKey?
  return { l with keyAllowed := false }.emitOver kind 3

/-- The end of the text, on a line of its own. -/
def fetchEnd? (l : Lexer) : Option Lexer := do
  let m := l.mark
  let m := if m.column = 0 then m else ⟨m.index, m.line + 1, 0⟩
  let l := { l with cursor := ⟨[], m⟩ }
  let l ← (l.closeBlocks (-1)).dropKey?
  return { l.emit .streamEnd m m with keyAllowed := false, ended := true }

/-- The start of a flow collection, which may itself be a key. -/
def fetchFlowStart? (l : Lexer) (kind : Token.Kind) : Option Lexer := do
  let l ← l.saveKey?
  return { l with keys := none :: l.keys, flow := l.flow + 1, keyAllowed := true }.emitOver kind 1

/-- The end of a flow collection. -/
def fetchFlowEnd? (l : Lexer) (kind : Token.Kind) : Option Lexer := do
  let l ← l.dropKey?
  let l := if l.inFlow then { l with keys := l.keys.drop 1, flow := l.flow - 1 } else l
  return { l with keyAllowed := false }.emitOver kind 1

/-- A comma between the entries of a flow collection. -/
def fetchFlowEntry? (l : Lexer) : Option Lexer := do
  let l ← l.dropKey?
  return { l with keyAllowed := true }.emitOver .flowEntry 1

/-- The dash of a block entry. -/
def fetchBlockEntry? (l : Lexer) : Option Lexer :=
  if !l.inFlow && !l.keyAllowed then none
  else do
    let l ← (l.openBlock l.mark.column none .blockSequenceStart l.mark).dropKey?
    return { l with keyAllowed := true }.emitOver .blockEntry 1

/-- The question mark in front of a key. -/
def fetchKey? (l : Lexer) : Option Lexer :=
  if !l.inFlow && !l.keyAllowed then none
  else do
    let l ← (l.openBlock l.mark.column none .blockMappingStart l.mark).dropKey?
    return { l with keyAllowed := !l.inFlow }.emitOver .key 1

/-- The colon in front of a value. If a key may have started, it has. -/
def fetchValue? (l : Lexer) : Option Lexer :=
  match l.keys with
  | some key :: rest =>
    let l := (l.emitAt key.number .key key.mark).openBlock key.mark.column (some key.number)
      .blockMappingStart key.mark
    some ({ l with keys := none :: rest, keyAllowed := false }.emitOver .value 1)
  | _ =>
    if !l.inFlow && !l.keyAllowed then none
    else
      let l := l.openBlock l.mark.column none .blockMappingStart l.mark
      some ({ l with keyAllowed := !l.inFlow }.emitOver .value 1)

/-- The name of an anchor or of an alias. -/
def fetchName? (l : Lexer) (kind : String → Token.Kind) : Option Lexer := do
  let start := l.mark
  let l ← l.saveKey?
  let c := l.cursor.skip 1
  let name := c.rest.takeWhile isName
  let c := c.skip name.length
  let closed := atBlank c.rest ||
    c.head?.any (['?', ':', ',', ']', '}', '%', '@', '\x60'].contains ·)
  if name.isEmpty || !closed then none
  else return { l with cursor := c, keyAllowed := false }.emit (kind (String.ofList name)) start c.mark

/-- A tag. -/
def fetchTag? (l : Lexer) : Option Lexer := do
  let start := l.mark
  let l ← l.saveKey?
  let (handle, suffix, c) ← readTag l.inFlow l.cursor
  return { l with cursor := c, keyAllowed := false }.emit (.tag handle suffix) start c.mark

/-- A block scalar, which is never a key. -/
def fetchBlockScalar? (l : Lexer) (literal : Bool) : Option Lexer := do
  let start := l.mark
  let l ← l.dropKey?
  let (text, c) ← readBlock literal l.indent (l.cursor.skip 1)
  let style := if literal then .literal else .folded
  return { l with cursor := c, keyAllowed := true }.emit (.scalar text style) start c.mark

/-- A quoted scalar. -/
def fetchQuoted? (l : Lexer) (single : Bool) : Option Lexer := do
  let start := l.mark
  let l ← l.saveKey?
  let (text, c) ← readQuoted single (l.cursor.skip 1)
  return { l with cursor := c, keyAllowed := false }.emit (.scalar text .quoted) start c.mark

/-- A plain scalar. If a line has ended behind it, a key may start. -/
def fetchPlain? (l : Lexer) : Option Lexer := do
  let start := l.mark
  let l ← l.saveKey?
  let (text, c, broken) ← readPlain l.inFlow (l.indent + 1) l.cursor
  return { l with cursor := c, keyAllowed := broken }.emit (.scalar text .plain) start c.mark

/-- Marks that cannot start a plain scalar. -/
def isIndicator (c : Char) : Bool :=
  c ∈ ['-', '?', ':', ',', '[', ']', '{', '}', '#', '&', '*', '!', '|', '>', '\'', '"', '%', '@', '\x60']

/-- A plain scalar may start: with no mark, with a dash that is no block entry, or outside of flow
collections with a question mark or a colon that has something behind it. -/
def startsPlain (l : Lexer) (c : Char) (rest : List Char) : Bool :=
  !(isIndicator c || isBlank c || isBreak c)
    || (c == '-' && !rest.head?.any isBlank)
    || (!l.inFlow && (c == '?' || c == ':') && !atBlank rest)

/-- The next token, its first character being ahead. -/
def fetchAhead? (l : Lexer) (c : Char) (rest : List Char) : Option Lexer :=
  if l.mark.column = 0 && c == '%' then l.fetchDirective?
  else if l.cursor.atDocumentMark then
    l.fetchDocumentMark? (if c == '-' then .documentStart else .documentEnd)
  else if c == '[' then l.fetchFlowStart? .flowSequenceStart
  else if c == '{' then l.fetchFlowStart? .flowMappingStart
  else if c == ']' then l.fetchFlowEnd? .flowSequenceEnd
  else if c == '}' then l.fetchFlowEnd? .flowMappingEnd
  else if c == ',' then l.fetchFlowEntry?
  else if c == '-' && atBlank rest then l.fetchBlockEntry?
  else if c == '?' && (l.inFlow || atBlank rest) then l.fetchKey?
  else if c == ':' && (l.inFlow || atBlank rest) then l.fetchValue?
  else if c == '*' then l.fetchName? .alias
  else if c == '&' then l.fetchName? .anchor
  else if c == '!' then l.fetchTag?
  else if c == '|' && !l.inFlow then l.fetchBlockScalar? true
  else if c == '>' && !l.inFlow then l.fetchBlockScalar? false
  else if c == '\'' then l.fetchQuoted? true
  else if c == '"' then l.fetchQuoted? false
  else if l.startsPlain c rest then l.fetchPlain?
  else none

/-- Cut the next token. -/
def fetch? (l : Lexer) : Option Lexer := do
  let l ← l.skipSpace.dropStale?
  let l := l.closeBlocks l.mark.column
  match l.cursor.rest with
  | [] => l.fetchEnd?
  | c :: rest => l.fetchAhead? c rest

/-- The tokens in front of the first one that may be a key are released. -/
def release? (l : Lexer) : Option (List Token × Lexer) :=
  if l.held.isEmpty then some ([], l)
  else do
    let l ← l.dropStale?
    let first := (l.keys.filterMap id).foldl (fun n key => min n key.number)
      (l.released + l.held.length)
    let count := first - l.released
    return (l.held.take count,
      { l with held := l.held.drop count, released := l.released + count })

/-- Cut tokens until the text ends or is malformed. Every token takes a character, so the fuel of `tokens`
suffices. -/
def run : Nat → Lexer → List (List Token)
  | 0, _ => []
  | fuel + 1, l =>
    match l.fetch?.bind release? with
    | none => []
    | some (ready, l) => ready :: if l.ended then [] else run fuel l

end Lexer

/-- The tokens of a text, up to its end or the first fault. -/
def tokens (text : String) : List Token :=
  let cs := text.toList
  if cs.all isAllowed then ((Lexer.ofText cs).run (cs.length + 2)).flatten else []

end ProfileBindings.Yaml
