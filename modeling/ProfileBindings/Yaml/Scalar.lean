import ProfileBindings.Text.Words
import ProfileBindings.Yaml.Characters

/-!
# Scalars of YAML texts

The three ways of writing a scalar: plain, between quotes, and as a block of indented lines. Each reader
starts at the scalar and gives its text with the cursor behind it, or `none` where the text is malformed.

Main definitions: `readPlain`, `readQuoted`, `readBlock`.
-/

namespace ProfileBindings.Yaml

/-! ## Plain scalars -/

/-- The marks that end a plain scalar inside brackets. -/
def isFlowMark (c : Char) : Bool := c == ',' || c == '[' || c == ']' || c == '{' || c == '}'

/-- The characters of a plain scalar up to white space or its end. Inside brackets a colon may not touch
one of their marks. -/
def plainRun (inFlow : Bool) : List Char → List Char → Mark → Option (List Char × Cursor)
  | seen, [], m => some (seen.reverse, ⟨[], m⟩)
  | seen, c :: rest, m =>
    if isBlank c || isBreak c then some (seen.reverse, ⟨c :: rest, m⟩)
    else if inFlow && c == ':' && rest.head?.any (fun x => isFlowMark x || x == '?') then none
    else if (c == ':' && atBlank rest) || (inFlow && isFlowMark c) then
      some (seen.reverse, ⟨c :: rest, m⟩)
    else plainRun inFlow (c :: seen) rest (m.step c)

/-- A plain scalar: its text, the cursor behind it and the white space that follows, and whether a line
has ended there. Outside brackets it ends with a line that is indented less than `indent`. -/
def plainLoop (inFlow : Bool) (indent : Int) :
    Nat → List Char → Gap → Cursor → Option (List Char × Cursor × Bool)
  | 0, _, _, _ => none
  | fuel + 1, seen, gap, c =>
    if c.atDocumentMark || c.head? == some '#' then some (seen, c, gap.broken)
    else
      match plainRun inFlow [] c.rest c.mark with
      | none => none
      | some (run, c) =>
        let seen := if run.isEmpty then seen else seen ++ gap.text ++ run
        let gap := if run.isEmpty then gap else .none
        if c.rest.isEmpty || !atBlank c.rest then some (seen, c, gap.broken)
        else
          match gap.read indent c.rest c.mark with
          | none => none
          | some (gap, c) =>
            if !inFlow && (c.mark.column : Int) < indent then some (seen, c, gap.broken)
            else plainLoop inFlow indent fuel seen gap c

/-- A plain scalar, its lines indented by at least `indent`. -/
def readPlain (inFlow : Bool) (indent : Int) (c : Cursor) : Option (String × Cursor × Bool) :=
  (plainLoop inFlow indent (c.rest.length + 1) [] .none c).map fun r => (String.ofList r.1, r.2)

/-! ## Quoted scalars -/

/-- The characters that are written by a backslash and one other character. -/
def shortEscapes : List (Char × Char) := [
  ('0', '\x00'), ('a', '\x07'), ('b', '\x08'), ('t', '\t'), ('\t', '\t'), ('n', '\n'), ('v', '\x0b'),
  ('f', '\x0c'), ('r', '\r'), ('e', '\x1b'), (' ', ' '), ('"', '"'), ('/', '/'), ('\\', '\\'),
  ('N', '\u0085'), ('_', '\u00a0'), ('L', '\u2028'), ('P', '\u2029')]

/-- The escapes that are followed by hexadecimal digits, and how many. -/
def longEscapes : List (Char × Nat) := [('x', 2), ('u', 4), ('U', 8)]

/-- The character that an escape stands for, behind its backslash, and how many characters it took. -/
def readEscape? : List Char → Option (Char × Nat)
  | [] => none
  | c :: rest =>
    match shortEscapes.lookup c, longEscapes.lookup c with
    | some x, _ => some (x, 1)
    | none, some count =>
      let digits := rest.take count
      if digits.length = count then
        ((Text.number? 16 digits).bind Text.charOf?).map (·, count + 1)
      else none
    | none, none => none

/-- How a run of characters between quotes ends. -/
inductive RunEnd where
  | quote
  | blank
  | escapedBreak

/-- The characters of a quoted scalar up to white space, the closing quote or an escaped line break. Between
single quotes the quote is written twice, between double quotes a backslash escapes. -/
def quotedRun (single : Bool) :
    Nat → List Char → Cursor → Option (List Char × Cursor × RunEnd)
  | 0, _, _ => none
  | fuel + 1, seen, c =>
    match c.rest with
    | [] => none
    | x :: rest =>
      if isBlank x || isBreak x then some (seen.reverse, c, .blank)
      else if single then
        match x, rest with
        | '\'', '\'' :: _ => quotedRun single fuel ('\'' :: seen) (c.skip 2)
        | '\'', _ => some (seen.reverse, c, .quote)
        | x, _ => quotedRun single fuel (x :: seen) (c.skip 1)
      else if x == '"' then some (seen.reverse, c, .quote)
      else if x == '\\' then
        match (c.skip 1).takeBreak? with
        | some (_, c) => some (seen.reverse, c, .escapedBreak)
        | none =>
          match readEscape? rest with
          | some (y, count) => quotedRun single fuel (y :: seen) (c.skip (count + 1))
          | none => none
      else quotedRun single fuel (x :: seen) (c.skip 1)

/-- A quoted scalar behind its opening quote. A document mark at the start of a line may not stand in it. -/
def quotedLoop (single : Bool) : Nat → List Char → Cursor → Option (List Char × Cursor)
  | 0, _, _ => none
  | fuel + 1, seen, c =>
    if c.atDocumentMark then none
    else
      match quotedRun single (c.rest.length + 1) [] c with
      | none => none
      | some (run, c, .quote) => some (seen ++ run, c.skip 1)
      | some (run, c, ending) =>
        let gap := match ending with
          | .escapedBreak => Gap.escaped
          | _ => Gap.none
        match gap.read (-1) c.rest c.mark with
        | none => none
        | some (gap, c) =>
          -- behind an escaped line break the closing quote may follow at once
          quotedLoop single fuel (seen ++ run ++ gap.text) c

/-- A quoted scalar behind its opening quote. -/
def readQuoted (single : Bool) (c : Cursor) : Option (String × Cursor) :=
  (quotedLoop single (c.rest.length + 1) [] c).map fun r => (String.ofList r.1, r.2)

/-! ## Block scalars -/

/-- What is done with the line breaks at the end of a block. -/
inductive Chomping where
  | strip
  | clip
  | keep
deriving DecidableEq, Repr

/-- The mark for the end of a block. -/
def chomping? : Char → Option Chomping
  | '-' => some .strip
  | '+' => some .keep
  | _ => none

/-- An indentation by a digit, which may not be zero. -/
def indentation? (c : Char) : Option Nat := if c.isDigit then some (c.toNat - '0'.toNat) else none

/-- The head of a block behind its mark: how it ends and by how much it is indented, in either order. -/
def readBlockHead (c : Cursor) : Option (Chomping × Option Nat × Cursor) :=
  let result : Option (Chomping × Option Nat × Cursor) :=
    match c.rest with
    | [] => some (.clip, none, c)
    | x :: rest =>
      match chomping? x, indentation? x with
      | some ending, _ =>
        match rest.head?.bind indentation? with
        | some n => some (ending, some n, c.skip 2)
        | none => some (ending, none, c.skip 1)
      | none, some n =>
        match rest.head?.bind chomping? with
        | some ending => some (ending, some n, c.skip 2)
        | none => some (.clip, some n, c.skip 1)
      | none, none => some (.clip, none, c)
  match result with
  | some (_, some 0, _) => none
  | some (ending, n, c) =>
    let c := c.skipBlanks
    let c := if c.head? == some '#' then c.skipLine else c
    if atLineEnd c.rest then some (ending, n, c.skipBreak) else none
  | none => none

/-- Empty lines and the indentation of the line behind them. Up to `limit` blanks belong to the
indentation, all of them while the limit is not known; a tab among them is a fault. Gives the line breaks
and the greatest column that was reached. -/
def blockBreaks (limit : Option Nat) : Nat → List Char → Nat → Cursor →
    Option (List Char × Nat × Cursor)
  | 0, _, _, _ => none
  | fuel + 1, seen, greatest, c =>
    let blanks := (c.rest.takeWhile (· == ' ')).length
    let count := match limit with
      | some n => min blanks (n - c.mark.column)
      | none => blanks
    let c := c.skip count
    let greatest := max greatest c.mark.column
    let indenting := match limit with
      | some n => c.mark.column < n
      | none => true
    if indenting && c.head? == some '\t' then none
    else
      match c.takeBreak? with
      | some (b, c) => blockBreaks limit fuel (seen ++ [b]) greatest c
      | none => some (seen, greatest, c)

/-- The lines of a block, indented by `indent`. `lead` is the break of the last line, `breaks` are those of
the empty lines behind it; a folded block joins two lines by a blank unless one of them is indented
further. -/
def blockLines (literal : Bool) (indent : Nat) :
    Nat → List Char → Option Char → List Char → Bool → Cursor →
    Option (List Char × Option Char × List Char × Cursor)
  | 0, _, _, _, _, _ => none
  | fuel + 1, seen, lead, breaks, afterBlank, c =>
    if c.mark.column ≠ indent || c.rest.isEmpty then some (seen, lead, breaks, c)
    else
      let startsBlank := c.head?.any isBlank
      let joined :=
        if !literal && lead == some '\n' && !afterBlank && !startsBlank then
          if breaks.isEmpty then [' '] else breaks
        else lead.toList ++ breaks
      let line := c.rest.takeWhile fun x => !isBreak x
      let c := c.skipLine
      let (lead, c) := match c.takeBreak? with
        | some (b, c) => (some b, c)
        | none => (none, c)
      match blockBreaks (some indent) (c.rest.length + 1) [] 0 c with
      | none => none
      | some (breaks, _, c) =>
        blockLines literal indent fuel (seen ++ joined ++ line) lead breaks startsBlank c

/-- A block scalar behind its mark, inside a block that is indented by `outer`. -/
def readBlock (literal : Bool) (outer : Int) (c : Cursor) : Option (String × Cursor) := do
  let (ending, increment, c) ← readBlockHead c
  let given := increment.map fun n => if 0 ≤ outer then outer.toNat + n else n
  let (breaks, greatest, c) ← blockBreaks given (c.rest.length + 1) [] 0 c
  let indent := given.getD (max (max greatest (outer + 1).toNat) 1)
  let (text, lead, breaks, c) ←
    blockLines literal indent (c.rest.length + 1) [] none breaks false c
  let tail := match ending with
    | .strip => []
    | .clip => lead.toList
    | .keep => lead.toList ++ breaks
  return (String.ofList (text ++ tail), c)

end ProfileBindings.Yaml
