import ProfileBindings.Pattern.Plain

/-!
# Reading patterns

The meaning of the text of a pattern. Alternatives are made of branches, a branch of pieces, and a piece is an
atom with or without a repetition. Flags that are set in the midst of a group stay set behind it.

Main definitions:
* `Flags` and `Reading` : what is known while a text is read;
* `readAlternatives`, `readBranch`, `readPiece`, `readAtom` : the parts of a text;
* `Pattern.read?` : the pattern that a text stands for.
-/

namespace ProfileBindings.Pattern

/-! ## States -/

/-- How letters and places are understood. -/
structure Flags where
  caseless : Bool
  multiline : Bool
  dotAll : Bool
  lazy : Bool
  spaced : Bool

/-- No flag is set. -/
def Flags.initial : Flags := ⟨false, false, false, false, false⟩

/-- What is known while a text is read. -/
structure Reading where
  /-- What has not been read yet. -/
  rest : List Char
  flags : Flags
  /-- The short names of sets stand for characters of all scripts. -/
  worldwide : Bool
  /-- The number of groups opened so far. -/
  opened : Nat
  /-- The groups that have names. -/
  names : List (List Char × Nat)
  /-- A group has been referred to by digits. -/
  numbered : Bool
  /-- The groups that have been referred to. -/
  used : List Nat
  /-- What numbers of groups have to be less than. -/
  bound : Nat

/-- A part of a text is read, or nothing stands for the text. -/
abbrev Reader := StateT Reading Option

namespace Reader

/-- Nothing stands for the text. -/
def fail {α : Type} : Reader α := fun _ => none

/-- What comes next. -/
def rest : Reader (List Char) := return (← get).rest

/-- Go on at another place. -/
def goTo (cs : List Char) : Reader Unit := modify ({ · with rest := cs })

/-- The flags that are set. -/
def flags : Reader Flags := return (← get).flags

/-- Set the flags. -/
def setFlags (flags : Flags) : Reader Unit := modify ({ · with flags })

/-- The text goes on with a character, which is read. -/
def takes (c : Char) : Reader Bool := do
  match ← rest with
  | d :: cs => if c == d then goTo cs; return true else return false
  | [] => return false

/-- Read a character that has to be there. -/
def expect (c : Char) : Reader Unit := do
  unless ← takes c do fail

/-- Open a group. -/
def openGroup : Reader Nat := do
  modify fun r => { r with opened := r.opened + 1 }
  return (← get).opened

/-- Refer to a group, which has to be open already. -/
def refer (number : Nat) : Reader Pattern := do
  if (← get).opened < number then fail
  modify fun r => { r with used := number :: r.used }
  return again number

end Reader

open Reader

/-! ## White space and comments -/

/-- The text behind a comment in parentheses; a backslash keeps the next character from ending it. -/
def skipComment? : List Char → Option (List Char)
  | [] => none
  | '\\' :: _ :: rest => skipComment? rest
  | ')' :: rest => some rest
  | _ :: rest => skipComment? rest

/-- The text behind what means nothing: comments in parentheses, and blanks and comments up to line ends if
they mean nothing. -/
def skipMeaningless? (spaced : Bool) : Nat → List Char → Option (List Char)
  | 0, cs => some cs
  | fuel + 1, cs =>
    match cs with
    | '(' :: '?' :: '#' :: rest => do skipMeaningless? spaced fuel (← skipComment? rest)
    | c :: rest =>
      if spaced && c ∈ [' ', '\r', '\n', '\t'] then skipMeaningless? spaced fuel rest
      else if spaced && c == '#' then
        skipMeaningless? spaced fuel ((rest.dropWhile (· != '\n')).drop 1)
      else some cs
    | [] => some []

/-- Go over what means nothing. -/
def skip : Reader Unit := do
  let r ← get
  match skipMeaningless? r.flags.spaced (r.rest.length + 1) r.rest with
  | some cs => goTo cs
  | none => fail

/-! ## Names and numbers -/

/-- Characters of names. -/
def isNameChar (c : Char) : Bool := c == '_' || Unicode.isAlphanumeric c.toNat

/-- A number with the text behind it. -/
def readDecimal? (cs : List Char) : Option (Nat × List Char) := do
  let digits := cs.takeWhile Char.isDigit
  let n ← Text.number? 10 digits
  if n < Nat.pow 2 64 then some (n, cs.drop digits.length) else none

/-- A name up to a closing character, perhaps with a hyphen in front. -/
def readNameTo (close : Char) (hyphen : Bool) : Reader (List Char) := do
  let cs ← rest
  let front := if hyphen then cs.takeWhile (· == '-') |>.take 1 else []
  let name := front ++ (cs.drop front.length).takeWhile isNameChar
  goTo (cs.drop name.length)
  expect close
  if name.isEmpty then fail else return name

/-- A reference to a group by its name, by its number, or by how many groups were opened since. -/
def referTo (name : List Char) : Reader Pattern := do
  let r ← get
  match r.names.lookup name, name with
  | some number, _ => refer number
  | none, '-' :: digits =>
    match Text.number? 10 digits with
    | some back => if back ≤ r.opened + 1 then refer (r.opened + 1 - back) else fail
    | none => fail
  | none, digits =>
    match Text.number? 10 digits with
    | some number => refer number
    | none => fail

/-- A reference to a group by digits. -/
def referByDigits : Reader Pattern := do
  let r ← get
  match readDecimal? r.rest with
  | some (number, cs) =>
    if number < r.bound then
      modify fun r => { r with rest := cs, numbered := true }
      refer number
    else fail
  | none => fail

/-! ## Characters and sets -/

/-- How escapes and brackets are read. -/
def manner : Reader Manner := return ⟨false, (← flags).caseless, (← get).worldwide⟩

/-- A set of characters. Case matters or not. -/
def setOf (s : CharSet) : Reader Pattern :=
  return char ((← manner).close false s)

/-- What an escape means outside of brackets. -/
def Primitive.toPattern : Primitive → Reader Pattern
  | literal c => setOf (.single c)
  | set s => return char s
  | place p => return check p

/-- Read by one of the readers that brackets and plain patterns have, too. -/
def shared {α : Type} (read : Manner → List Char → Except Stop (Found α)) : Reader α := do
  match read (← manner) (← rest) with
  | .ok (a, cs) => goTo cs; return a
  | .error _ => fail

/-- The digits of a number, in braces or so many of them. In braces there are at most eight. -/
def readCharDigits (count : Nat) : Reader (List Char) := do
  match ← rest with
  | '\x7b' :: cs =>
    let digits := cs.takeWhile (· != '\x7d')
    goTo (cs.drop digits.length)
    expect '\x7d'
    if digits.length ≤ 8 then return digits else fail
  | cs =>
    goTo (cs.drop count)
    if count ≤ cs.length then return cs.take count else fail

/-- A character by its number. -/
def readCharNumber (count : Nat) : Reader Primitive := do
  match (Text.number? 16 (← readCharDigits count)).bind Text.charOf? with
  | some c => return .literal c
  | none => fail

/-- The letters behind a backslash that mean the same in all patterns. -/
def sharedLetters : List Char :=
  ['d', 'D', 's', 'S', 'w', 'W', 'p', 'P', 'a', 'f', 'n', 'r', 't', 'v']

/-- An escape for a character or a set, behind the backslash. -/
def readPrimitive : Reader Primitive := do
  match ← rest with
  | [] => fail
  | c :: cs =>
    match numberEscapes.lookup c with
    | some count => goTo cs; readCharNumber count
    | none =>
      if c == 'h' then goTo cs; return .set .hexDigits
      else if c == 'H' then goTo cs; return .set CharSet.hexDigits.complement
      else if c == 'e' then goTo cs; return .literal '\x1b'
      else if c.isAlpha then
        if sharedLetters.contains c then shared readEscape else fail
      else if ' ' ≤ c && c ≤ '\x7f' then goTo cs; return .literal c
      else shared readEscape

/-- An escape outside of brackets. -/
def readAtomEscape : Reader Pattern := do
  match ← rest with
  | [] => fail
  | c :: cs =>
    if c.isDigit then referByDigits
    else
      match c, placeEscapes.lookup c with
      | _, some place => do
        goTo cs
        if (c == 'b' || c == 'B') && cs.head? == some '\x7b' then fail
        return check place
      | 'k', none => do
        goTo cs
        if ← takes '\'' then referTo (← readNameTo '\'' true)
        else
          expect '<'
          referTo (← readNameTo '>' true)
      | 'K', none => goTo cs; return atomic nothing
      | 'G', none => goTo cs; return atomic start
      | _, none => (← readPrimitive).toPattern

/-- The text that stands for an escape in brackets, given the text of the escape behind the backslash. Escapes
that only this reader knows are written in another way. -/
def writtenPrimitive (escape : List Char) : Primitive → List Char
  | .literal c => if isMeta c then ['\\', c] else [c]
  | .set _ =>
    match escape with
    | 'h' :: _ => "[0-9A-Fa-f]".toList
    | 'H' :: _ => "[^0-9A-Fa-f]".toList
    | _ => '\\' :: escape
  | .place _ => []

/-- The text of an escape in brackets, as `readBrackets` understands it. A place is no member of a set. -/
def readWrittenPrimitive : Reader (List Char) := do
  let before ← rest
  let primitive ← readPrimitive
  let behind ← rest
  match primitive with
  | .place _ => fail
  | _ => return writtenPrimitive (before.take (before.length - behind.length)) primitive

/-- The text of a set up to its closing bracket, with so many brackets open. -/
def readWrittenBrackets : (fuel : Nat) → (depth : Nat) → Reader (List Char)
  | 0, _ => fail
  | fuel + 1, depth => do
    match ← rest with
    | [] => fail
    | '\\' :: cs => do
      goTo cs
      let front ← readWrittenPrimitive
      return front ++ (← readWrittenBrackets fuel depth)
    | '[' :: cs => do
      goTo cs
      return '[' :: (← readWrittenBrackets fuel (depth + 1))
    | ']' :: cs => do
      goTo cs
      if depth ≤ 1 then return [']'] else return ']' :: (← readWrittenBrackets fuel (depth - 1))
    | c :: cs => do
      goTo cs
      return c :: (← readWrittenBrackets fuel depth)

/-- A set behind its opening bracket. A closing bracket that comes first stands for itself. -/
def readSet : Reader Pattern := do
  let caret := if ← takes '^' then ['^'] else []
  let bracket := if ← takes ']' then [']'] else []
  let text ← readWrittenBrackets ((← rest).length + 1) 1
  match readBrackets (← manner) bracketDepth (caret ++ bracket ++ text) with
  | .ok (set, []) => return char set
  | _ => fail

/-! ## Repetitions -/

/-- The bounds of a repetition and the text behind them, if they are bounds. -/
def readBounds? : Reader (Option (Nat × Option Nat)) := fun r =>
  let body : Reader (Nat × Option Nat) := do
    skip
    let least ← match readDecimal? (← rest) with
      | some (n, cs) => goTo cs; pure n
      | none => if (← rest).head? == some ',' then pure 0 else fail
    skip
    let most ← if ← takes ',' then
        skip
        match readDecimal? (← rest) with
        | some (n, cs) => goTo cs; pure (some n)
        | none => pure none
      else pure (some least)
    skip
    expect '\x7d'
    return (least, most)
  match body r with
  | some (bounds, r) => some (some bounds, r)
  | none => some (none, r)

/-- How often the atom in front may be repeated, if the text says so. -/
def readRepeats? : Reader (Option (Nat × Option Nat)) := do
  match ← rest with
  | '?' :: cs => goTo cs; return some (0, some 1)
  | '*' :: cs => goTo cs; return some (0, none)
  | '+' :: cs => goTo cs; return some (1, none)
  | '\x7b' :: cs => do
    goTo cs
    let bounds ← readBounds?
    if bounds.isNone then goTo ('\x7b' :: cs)
    return bounds
  | _ => return none

/-- An atom, repeated as the text behind it says. -/
def readPiece (readAtom : Reader Pattern) : Reader Pattern := do
  skip
  let p ← readAtom
  skip
  match ← readRepeats? with
  | none => return p
  | some (least, most) =>
    if !p.isRepeatable || most.any (· < least) then fail
    skip
    let greedy := (← takes '?') == (← flags).lazy
    let repetition := repeated least most greedy p
    if ← takes '+' then return atomic repetition else return repetition

/-! ## Branches and alternatives -/

/-- Pieces one behind the other, up to where nothing is read. -/
def readBranch (readAtom : Reader Pattern) : (fuel : Nat) → Reader Pattern
  | 0 => fail
  | fuel + 1 => do
    let before := (← rest).length
    let p ← readPiece readAtom
    if (← rest).length = before then return nothing
    else return p.andThen (← readBranch readAtom fuel)

/-- Branches behind the first one. -/
def readOthers (readAtom : Reader Pattern) : (fuel : Nat) → Reader (List Pattern)
  | 0 => fail
  | fuel + 1 => do
    skip
    if ← takes '|' then
      let p ← readBranch readAtom ((← rest).length + 1)
      return p :: (← readOthers readAtom fuel)
    else return []

/-- Branches between bars. A text that has only one must not refer to groups by digits and give groups
names. -/
def readAlternatives (readAtom : Reader Pattern) : Reader Pattern := do
  let p ← readBranch readAtom ((← rest).length + 1)
  let others ← readOthers readAtom ((← rest).length + 1)
  if others.isEmpty then
    let r ← get
    if r.numbered && !r.names.isEmpty then fail else return p
  else return oneOf (p :: others)

/-! ## Groups -/

/-- A look behind. Alternatives may have matches of different lengths, each one of its own. -/
def lookBehind (wanted : Bool) (p : Pattern) : Reader Pattern :=
  match p.width?, p.choices.mapM fun q => q.width?.map fun width => behind wanted width q with
  | some width, _ => return behind wanted width p
  | none, some looks =>
    return if wanted then oneOf looks else looks.foldr andThen nothing
  | none, none => fail

/-- A group with its number, which is counted before the groups inside. -/
def capture (inside : Reader Pattern) : Reader Pattern := do
  let number ← openGroup
  return group number (← inside)

/-- A group with a name, up to its closing parenthesis. -/
def namedCapture (inside : Reader Pattern) : Reader Pattern := do
  let number ← openGroup
  let name ← readNameTo '>' false
  modify fun r => { r with names := (name, number) :: r.names }
  return group number (← inside)

/-- Flags changed by a letter. -/
def Flags.change? (f : Flags) (on : Bool) : Char → Option Flags
  | 'i' => some { f with caseless := on }
  | 'm' => some { f with multiline := on }
  | 's' => some { f with dotAll := on }
  | 'U' => some { f with lazy := on }
  | 'x' => some { f with spaced := on }
  | 'u' => if on then some f else none
  | _ => none

/-- Letters of flags, which are taken away behind a hyphen: whether a letter or a hyphen is there, and whether
it is more than a hyphen. -/
def readFlagLetters : (fuel : Nat) → (on : Bool) → (count : Nat) → Reader (Bool × Nat)
  | 0, _, _ => fail
  | fuel + 1, on, count => do
    skip
    match ← rest with
    | [] => fail
    | '-' :: cs => do
      if !on then fail
      goTo cs
      readFlagLetters fuel false (count + 1)
    | c :: cs =>
      if c == ')' || c == ':' then return (on, count)
      else
        match (← flags).change? on c with
        | some f => do
          goTo cs
          setFlags f
          readFlagLetters fuel on (count + 1)
        | none => fail

/-- Flags for what follows, or for a group, behind the question mark. -/
def readFlagGroup (inside : Reader Pattern) : Reader Pattern := do
  let before ← flags
  let (on, count) ← readFlagLetters ((← rest).length + 1) true 0
  if !on && count = 1 then fail
  if ← takes ':' then
    let p ← inside
    setFlags before
    return p
  else
    if count = 0 then fail
    expect ')'
    return nothing

/-- A group behind its opening parenthesis. -/
def readGroup (alternatives : Reader Pattern) : Reader Pattern := do
  let inside : Reader Pattern := do
    let p ← alternatives
    skip
    expect ')'
    return p
  skip
  match ← rest with
  | '?' :: '=' :: cs => goTo cs; return ahead true (← inside)
  | '?' :: '!' :: cs => goTo cs; return ahead false (← inside)
  | '?' :: '<' :: '=' :: cs => goTo cs; lookBehind true (← inside)
  | '?' :: '<' :: '!' :: cs => goTo cs; lookBehind false (← inside)
  | '?' :: '<' :: cs => goTo cs; namedCapture inside
  | '?' :: 'P' :: '<' :: cs => goTo cs; namedCapture inside
  | '?' :: 'P' :: '=' :: cs => goTo cs; referTo (← readNameTo ')' false)
  | '?' :: '>' :: cs => goTo cs; return atomic (← inside)
  | '?' :: cs => goTo cs; readFlagGroup inside
  | _ => capture inside

/-! ## Patterns -/

/-- A character, a set, a test of a place or a group, given the reader for what is behind an opening
parenthesis. Nothing is read in front of a sign of repetition, at the end of a branch or of a group. -/
def readAtomWith (inParentheses : Reader Pattern) : Reader Pattern := do
  let f ← flags
  match ← rest with
  | [] => return nothing
  | '.' :: cs => goTo cs; return char (if f.dotAll then .all else .lineChars)
  | '^' :: cs => goTo cs; return check (if f.multiline then .lineStart else .start)
  | '$' :: cs => goTo cs; return check (if f.multiline then .lineFinish else .finish)
  | '(' :: cs => goTo cs; inParentheses
  | '\\' :: cs => goTo cs; readAtomEscape
  | '[' :: cs => goTo cs; readSet
  | c :: cs =>
    if c ∈ ['+', '*', '?', '|', ')'] then return nothing
    else do
      goTo cs
      setOf (.single c)

/-- An atom, in which groups are nested up to a depth. -/
def readAtom : (depth : Nat) → Reader Pattern
  | 0 => readAtomWith fail
  | depth + 1 => readAtomWith (readGroup (readAlternatives (readAtom depth)))

/-- How deep groups may be nested. -/
def groupDepth : Nat := 63

/-- How much work a pattern may be that is matched by a machine. -/
def greatestWeight : Nat := 327680

/-- The pattern that a draft stands for. -/
def Draft.read? (d : Draft) : Option Pattern := do
  let bytes := (String.ofList d.text).utf8ByteSize
  let (p, r) ← readAlternatives (readAtom groupDepth)
    ⟨d.text, .initial, d.worldwide, 0, [], false, [], bytes / 2⟩
  let p := p.keeping r.used
  if !r.rest.isEmpty || (p.isRegular && greatestWeight < p.weight) then none else some p

/-- The pattern that a text stands for. -/
def read? (s : String) : Option Pattern := do
  (← draft? (s.length + 1) s.toList).read?

end ProfileBindings.Pattern
