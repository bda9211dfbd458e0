import ProfileBindings.Pattern.Basic

/-!
# Matching

A match leads from one spot of a text to another one; a spot is a place in the text together with what the
groups remember there. `reach` follows a pattern from several spots at once, so that spots that are reached
in more than one way are followed only once. Only where a pattern keeps to the first way of matching does the
order of ways matter: `inOrder` gives the spots in the order in which they are tried.

Main definitions:
* `Spot`, with `Spot.take?`, `Spot.enter` and `Spot.leave`, and `Place.holds`;
* `inOrder` : where a pattern leads from one spot, first ways first;
* `reach` : where a pattern leads from several spots;
* `occursIn` : the pattern matches some part of a text.
-/

namespace ProfileBindings.Pattern

/-- The part of a text that a group has matched last: where the group was entered last, and where it was left
last. -/
structure Part where
  entered : Nat
  left : Option Nat
deriving DecidableEq, Repr

/-- A place in a text, with what the groups have matched on the way. -/
structure Spot where
  index : Nat
  memory : List (Nat × Part)
deriving DecidableEq, Repr

/-- A character of a word is behind a place. -/
def wordBehind (text : Array Char) : Nat → Bool
  | 0 => false
  | n + 1 => text[n]?.any CharSet.words

/-- A character of a word is ahead of a place. -/
def wordAhead (text : Array Char) (index : Nat) : Bool := text[index]?.any CharSet.words

/-- The test of a place. -/
def Place.holds (text : Array Char) (index : Nat) : Place → Bool
  | start => index == 0
  | finish => index == text.size
  | lineStart => index == 0 || text[index - 1]? == some '\n'
  | lineFinish => index == text.size || text[index]? == some '\n'
  | wordEdge => wordBehind text index != wordAhead text index
  | noWordEdge => wordBehind text index == wordAhead text index
  | wordStart => !wordBehind text index && wordAhead text index
  | wordFinish => wordBehind text index && !wordAhead text index

namespace Spot

/-- The spot behind a character of a set. -/
def take? (text : Array Char) (set : CharSet) (s : Spot) : Option Spot :=
  if text[s.index]?.any set then some { s with index := s.index + 1 } else none

/-- The characters that a group has matched last. While the group is open, they reach from where it was
entered to where it was left the time before. -/
def matched? (text : Array Char) (number : Nat) (s : Spot) : Option (Array Char) := do
  let part ← s.memory.lookup number
  let left ← part.left
  if part.entered ≤ left then some (text.extract part.entered left) else none

/-- The spot behind the characters that a group has matched last. -/
def takeAgain? (text : Array Char) (number : Nat) (s : Spot) : Option Spot := do
  let wanted ← s.matched? text number
  let behind := s.index + wanted.size
  if text.extract s.index behind = wanted then some { s with index := behind } else none

/-- The spot, with a group remembering something else. -/
def remember (number : Nat) (part : Part) (s : Spot) : Spot :=
  { s with memory := (number, part) :: s.memory.filter (·.1 != number) }

/-- The spot, with a group entered there. -/
def enter (number : Nat) (s : Spot) : Spot :=
  s.remember number ⟨s.index, (s.memory.lookup number).bind Part.left⟩

/-- The spot, with an open group left there. -/
def leave (number : Nat) (s : Spot) : Spot :=
  match s.memory.lookup number with
  | some part => s.remember number { part with left := some s.index }
  | none => s

/-- The spot so many characters back. -/
def back? (width : Nat) (s : Spot) : Option Spot :=
  if width ≤ s.index then some { s with index := s.index - width } else none

/-- What is remembered here, at another place. -/
def movedTo (index : Nat) (s : Spot) : Spot := { s with index }

end Spot

/-! ## First ways first -/

/-- Where so many steps lead, first ways first. -/
def timesInOrder (step : Spot → List Spot) : Nat → List Spot → List Spot
  | 0, spots => spots
  | n + 1, spots =>
    let next := (spots.flatMap step).eraseDups
    if next = spots then spots else timesInOrder step n next

/-- Where up to so many steps lead, first ways first. A step that stays in place ends the repetition. -/
def upToInOrder (step : Spot → List Spot) (greedy : Bool) : Nat → Spot → List Spot
  | 0, s => [s]
  | n + 1, s =>
    let further := (step s).flatMap fun t =>
      if t.index = s.index then [t] else upToInOrder step greedy n t
    (if greedy then further ++ [s] else s :: further).eraseDups

/-- Where any number of steps leads, first ways first. `state` has the spots from which steps were tried
already, and the spots where the repetition may end; no spot is tried twice. -/
def anyInOrder (step : Spot → List Spot) (greedy : Bool) :
    (fuel : Nat) → (state : List Spot × List Spot) → Spot → List Spot × List Spot
  | 0, (tried, found), s => (tried, found ++ [s])
  | fuel + 1, (tried, found), s =>
    if tried.contains s then (tried, found)
    else
      let found := if greedy then found else found ++ [s]
      let (tried, found) := (step s).foldl (fun state t =>
        if t.index = s.index then (state.1, state.2 ++ [t])
        else anyInOrder step greedy fuel state t) (s :: tried, found)
      (tried, if greedy then found ++ [s] else found)

/-- Where a pattern leads from a spot, first ways first. -/
def inOrder (text : Array Char) : Pattern → Spot → List Spot
  | never, _ => []
  | nothing, s => [s]
  | check place, s => if place.holds text s.index then [s] else []
  | char set, s => (s.take? text set).toList
  | seq p q, s => ((inOrder text p s).flatMap (inOrder text q)).eraseDups
  | alt p q, s => (inOrder text p s ++ inOrder text q s).eraseDups
  | repeated least most greedy p, s =>
    let behindLeast := timesInOrder (inOrder text p) least [s]
    let further (s : Spot) : List Spot :=
      match most with
      | some most => upToInOrder (inOrder text p) greedy (most - least) s
      | none => (anyInOrder (inOrder text p) greedy (text.size + 1) ([], []) s).2
    (behindLeast.flatMap further).eraseDups
  | group number p, s => (inOrder text p (s.enter number)).map (·.leave number)
  | again number, s => (s.takeAgain? text number).toList
  | ahead true p, s => ((inOrder text p s).map (·.movedTo s.index)).eraseDups
  | ahead false p, s => if (inOrder text p s).isEmpty then [s] else []
  | behind wanted width p, s =>
    let found := (s.back? width).toList.flatMap (inOrder text p)
    if wanted then (found.map (·.movedTo s.index)).eraseDups else if found.isEmpty then [s] else []
  | atomic p, s => (inOrder text p s).take 1

/-! ## All ways -/

/-- Where so many steps lead. Steps that lead to where they start from change nothing any more. -/
def times (step : List Spot → List Spot) : Nat → List Spot → List Spot
  | 0, spots => spots
  | n + 1, spots =>
    let next := step spots
    if next = spots then spots else times step n next

/-- Where up to so many steps lead: the spots that were seen already, and what can be reached from those that
were seen last. -/
def upTo (step : List Spot → List Spot) : Nat → (last seen : List Spot) → List Spot
  | 0, _, seen => seen
  | n + 1, last, seen =>
    let next := (step last).eraseDups.filter fun s => !seen.contains s
    if next.isEmpty then seen else upTo step n next (seen ++ next)

/-- Where a pattern leads from some spots. A repetition that takes characters has at most as many repeats as
the text has characters. -/
def reach (text : Array Char) : Pattern → List Spot → List Spot
  | never, _ => []
  | nothing, spots => spots
  | check place, spots => spots.filter fun s => place.holds text s.index
  | char set, spots => spots.filterMap (·.take? text set)
  | seq p q, spots => reach text q (reach text p spots)
  | alt p q, spots => (reach text p spots ++ reach text q spots).eraseDups
  | repeated least most _ p, spots =>
    let behindLeast := times (reach text p) least spots
    let bound := match most with
      | some most => most - least
      | none => text.size + 1
    upTo (reach text p) bound behindLeast behindLeast
  | group number p, spots => (reach text p (spots.map (·.enter number))).map (·.leave number)
  | again number, spots => spots.filterMap (·.takeAgain? text number)
  | ahead true p, spots =>
    (spots.flatMap fun s => (reach text p [s]).map (·.movedTo s.index)).eraseDups
  | ahead false p, spots => spots.filter fun s => (reach text p [s]).isEmpty
  | behind true width p, spots =>
    (spots.flatMap fun s => (reach text p (s.back? width).toList).map (·.movedTo s.index)).eraseDups
  | behind false width p, spots =>
    spots.filter fun s => (reach text p (s.back? width).toList).isEmpty
  | atomic p, spots => (spots.flatMap (inOrder text (atomic p))).eraseDups

/-- The spots of a text before anything has been matched. -/
def spots (text : Array Char) : List Spot := (List.range (text.size + 1)).map (⟨·, []⟩)

/-- The pattern matches some part of the text. -/
def occursIn (p : Pattern) (s : String) : Bool :=
  let text := s.toList.toArray
  !(reach text p (spots text)).isEmpty

end ProfileBindings.Pattern
