import ProfileBindings.Pattern.Brackets

/-!
# Plain patterns

A pattern is plain if it neither refers back nor looks around. In a plain pattern the short names of sets
stand for the characters of ASCII, in other patterns for those of all scripts. Whether a pattern is plain is
told by going over its text once, without keeping what it means. What is not plain is met before anything
that is wrong behind it. On the way control characters that are written by letters are put in their places; an
alarm character must not be written by a letter in a plain pattern, but in brackets it may.

Main definitions:
* `Walk` and `Walk.step` : going over a text;
* `walk` : going over all of a text;
* `Draft` and `draft?` : the text of a pattern, ready to be read.
-/

namespace ProfileBindings.Pattern

/-! ## Names and flags -/

/-- Characters that the name of a group may start with. -/
def isNameStart (c : Char) : Bool := c == '_' || Unicode.isAlphabetic c.toNat

/-- Characters that the name of a group may go on with. -/
def isNameRest (c : Char) : Bool :=
  c == '_' || c == '.' || c == '[' || c == ']' || Unicode.isAlphanumeric c.toNat

/-- The name of a group, which is none of the names known, and the text behind its closing bracket. -/
def readName (known : List (List Char)) (cs : List Char) : Except Stop (Found (List Char)) :=
  let name := cs.takeWhile (· != '>')
  match name, cs.drop name.length with
  | first :: others, '>' :: rest =>
    if isNameStart first && others.all isNameRest && !known.contains name then .ok (name, rest)
    else .error .malformed
  | _, _ => .error .malformed

/-- The flags of a pattern, by letters. -/
def isFlag (c : Char) : Bool := c ∈ ['i', 'm', 's', 'U', 'u', 'R', 'x']

/-- No character is there twice. -/
def allDifferent : List Char → Bool
  | [] => true
  | c :: rest => !rest.contains c && allDifferent rest

/-- What flags say about white space, if they say something: flags behind a hyphen are taken away. -/
def spacedBy? (flags : List Char) : Option Bool :=
  if (flags.takeWhile (· != '-')).contains 'x' then some true
  else if flags.contains 'x' then some false
  else none

/-- Flags up to a colon or a closing parenthesis, which is left in the text. A hyphen has to be in front of a
flag. -/
def readFlags (cs : List Char) : Except Stop (Found (List Char)) :=
  let flags := cs.takeWhile fun c => c != ':' && c != ')'
  let rest := cs.drop flags.length
  if !rest.isEmpty && flags.all (fun c => c == '-' || isFlag c) && allDifferent flags
      && flags.getLast? != some '-' then
    .ok (flags, rest)
  else .error .malformed

/-! ## Counts -/

/-- The greatest count of repeats. -/
def greatestRepeat : Nat := Nat.pow 2 32 - 1

/-- Digits, between which white space may mean nothing. -/
def readDigits (m : Manner) : Nat → List Char → Found (List Char)
  | 0, cs => ([], cs)
  | _ + 1, [] => ([], [])
  | fuel + 1, c :: rest =>
    if c.isDigit then
      let (others, rest) := readDigits m fuel (m.skip rest)
      (c :: others, rest)
    else ([], c :: rest)

/-- A count of repeats, with white space on both sides. -/
def readCount (m : Manner) (cs : List Char) : Except Stop (Found Nat) := do
  let (digits, rest) := readDigits m cs.length (cs.dropWhile isSpace)
  match Text.number? 10 digits with
  | some n =>
    if n ≤ greatestRepeat then return (n, m.skip (rest.dropWhile isSpace)) else .error .malformed
  | none => .error .malformed

/-- The text behind the bounds of a repetition, given the text behind the opening brace. -/
def skipBounds (m : Manner) (cs : List Char) : Except Stop (List Char) := do
  let (least, rest) ← readCount m (m.skip cs)
  match rest with
  | '\x7d' :: rest => return m.skip rest
  | ',' :: rest =>
    match m.skip rest with
    | '\x7d' :: rest => return m.skip rest
    | rest =>
      let (most, rest) ← readCount m rest
      match rest with
      | '\x7d' :: rest => if least ≤ most then return m.skip rest else .error .malformed
      | _ => .error .malformed
  | _ => .error .malformed

/-! ## Going over a text -/

/-- What is known on the way through a text. -/
structure Walk where
  /-- White space and comments mean nothing here. -/
  spaced : Bool
  /-- The same outside of the groups that are open, innermost first. -/
  outer : List Bool
  /-- What is in front may be repeated. -/
  repeatable : Bool
  /-- The names of groups. -/
  names : List (List Char)
  /-- An alarm character has been written by a letter. -/
  alarmed : Bool

namespace Walk

/-- The start of a text. -/
def start : Walk := ⟨false, [], false, [], false⟩

/-- How the text is read here. -/
def manner (w : Walk) : Manner := ⟨w.spaced, false, false⟩

/-- Something is there that may be repeated. -/
def repeating (w : Walk) : Walk := { w with repeatable := true }

/-- A group is entered. -/
def enter (w : Walk) (spaced : Bool) : Walk :=
  { w with spaced, outer := w.spaced :: w.outer, repeatable := false }

/-- Behind an opening parenthesis. -/
def enterGroup (w : Walk) (cs : List Char) : Except Stop (Walk × List Char) :=
  match w.manner.skip cs with
  | '?' :: '=' :: _ => .error .extended
  | '?' :: '!' :: _ => .error .extended
  | '?' :: '<' :: '=' :: _ => .error .extended
  | '?' :: '<' :: '!' :: _ => .error .extended
  | '?' :: 'P' :: '<' :: rest => named rest
  | '?' :: '<' :: rest => named rest
  | '?' :: rest => do
    let (flags, rest) ← readFlags rest
    let spaced := (spacedBy? flags).getD w.spaced
    match rest with
    | ':' :: rest => return (w.enter spaced, rest)
    | _ =>
      if flags.isEmpty then .error .malformed
      else return ({ w with spaced, repeatable := false }, rest.drop 1)
  | rest => .ok (w.enter w.spaced, rest)
where
  /-- A group with a name. -/
  named (cs : List Char) : Except Stop (Walk × List Char) := do
    let (name, rest) ← readName w.names cs
    return ({ w.enter w.spaced with names := name :: w.names }, rest)

/-- Behind a closing parenthesis. -/
def leaveGroup (w : Walk) : Except Stop Walk :=
  match w.outer with
  | [] => .error .malformed
  | spaced :: outer => .ok { w with spaced, outer, repeatable := true }

/-- The text behind a question mark that makes a repetition take as little as it can. -/
def skipLazy : List Char → List Char
  | '?' :: rest => rest
  | cs => cs

/-- Behind the next part of a text that goes on with a character. -/
def step (w : Walk) (c : Char) (rest : List Char) : Except Stop (Walk × List Char) :=
  match c with
  | '(' => w.enterGroup rest
  | ')' => return (← w.leaveGroup, rest)
  | '|' => return ({ w with repeatable := false }, rest)
  | '[' => do
    let (_, rest) ← readBrackets w.manner bracketDepth rest
    return (w.repeating, rest)
  | '\\' => do
    let (_, rest') ← readEscape w.manner rest
    return ({ w.repeating with alarmed := w.alarmed || rest.head? == some 'a' }, rest')
  | '\x7b' =>
    if w.repeatable then return (w, skipLazy (← skipBounds w.manner rest)) else .error .malformed
  | c =>
    if c == '?' || c == '*' || c == '+' then
      if w.repeatable then .ok (w, skipLazy rest) else .error .malformed
    else .ok (w.repeating, rest)

end Walk

/-- Go over a text to its end. -/
def walk : (fuel : Nat) → Walk → List Char → Except Stop Walk
  | 0, _, _ => .error .malformed
  | fuel + 1, w, cs =>
    match w.manner.skip cs with
    | [] => if w.outer.isEmpty then .ok w else .error .malformed
    | c :: rest => do
      let (w, rest) ← w.step c rest
      walk fuel w rest

/-! ## Drafts -/

/-- The text of a pattern, ready to be read. -/
structure Draft where
  text : List Char
  /-- The short names of sets stand for characters of all scripts. -/
  worldwide : Bool
deriving DecidableEq

/-- The control character that is written by a letter. -/
def controlChar (letter : Char) : Char := Char.ofNat (letter.toNat % 32)

/-- A text without the escape for a control character that ends in front of `rest`: the character itself is
there. -/
def withControl (text : List Char) (letter : Char) (rest : List Char) : List Char :=
  text.take (text.length - (rest.length + 3)) ++ controlChar letter :: rest

/-- The draft of a pattern. There is none if the text is malformed in front of everything that is not plain.
Each control character that is put in its place makes the text shorter by two. -/
def draft? : (fuel : Nat) → List Char → Option Draft
  | 0, _ => none
  | fuel + 1, text =>
    match walk (text.length + 1) Walk.start text with
    | .ok w => if w.alarmed then none else some ⟨text, false⟩
    | .error .extended => some ⟨text, true⟩
    | .error .malformed => none
    | .error (.control letter rest) => draft? fuel (withControl text letter rest)

end ProfileBindings.Pattern
