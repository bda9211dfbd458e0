import ProfileBindings.Pattern.CharSet

/-!
# Patterns

Patterns over characters: besides sequences, alternatives and repetitions of sets of characters they test
places of a text, look ahead and behind without taking characters, remember what a group has matched, and
keep to the first way in which a part matches.

Main definitions:
* `Pattern.Place` and `Pattern`;
* `Pattern.oneOf`, `Pattern.andThen` : how patterns are put together;
* `Pattern.width?` : the number of characters that every match of a pattern has;
* `Pattern.weight` : how much work it is to match a pattern;
* `Pattern.keeping` : a pattern that remembers only some of its groups.
-/

namespace ProfileBindings

/-- Tests of a place in a text. -/
inductive Pattern.Place where
  /-- The start of the text. -/
  | start
  /-- The end of the text. -/
  | finish
  /-- The start of a line. -/
  | lineStart
  /-- The end of a line. -/
  | lineFinish
  /-- The start or the end of a word. -/
  | wordEdge
  /-- Neither the start nor the end of a word. -/
  | noWordEdge
  /-- The start of a word. -/
  | wordStart
  /-- The end of a word. -/
  | wordFinish
deriving DecidableEq, Repr

/-- A pattern. -/
inductive Pattern where
  /-- Matches nothing. -/
  | never
  /-- Matches the empty text. -/
  | nothing
  /-- Matches the empty text at some places. -/
  | check (place : Pattern.Place)
  /-- Matches one character. -/
  | char (set : CharSet)
  | seq (p q : Pattern)
  | alt (p q : Pattern)
  /-- Matches so many times; a greedy repetition tries more repeats first. -/
  | repeated (least : Nat) (most : Option Nat) (greedy : Bool) (p : Pattern)
  /-- Remembers by a number what has been matched. -/
  | group (number : Nat) (p : Pattern)
  /-- Matches what a group has matched last. -/
  | again (number : Nat)
  /-- Matches the empty text in front of a match, or where there is none. -/
  | ahead (wanted : Bool) (p : Pattern)
  /-- Matches the empty text behind a match of so many characters, or where there is none. -/
  | behind (wanted : Bool) (width : Nat) (p : Pattern)
  /-- Matches in the first way only. -/
  | atomic (p : Pattern)

namespace Pattern

/-- The start of the text. -/
def start : Pattern := check .start

/-- The end of the text. -/
def finish : Pattern := check .finish

/-- Any number of times. -/
def star (p : Pattern) : Pattern := repeated 0 none true p

/-- One or more times. -/
def plus (p : Pattern) : Pattern := repeated 1 none true p

/-- One pattern behind the other; what takes and tests nothing disappears. -/
def andThen : Pattern → Pattern → Pattern
  | nothing, q => q
  | p, nothing => p
  | p, q => seq p q

/-- One of several patterns, the first ones being tried first. -/
def oneOf (choices : List Pattern) : Pattern := choices.foldr alt never

/-- The patterns of `oneOf`. -/
def choices : Pattern → List Pattern
  | alt p q => p :: choices q
  | never => []
  | p => [p]

/-- The least number of characters that a match has, and whether every match has that many. -/
def extent : Pattern → Nat × Bool
  | never => (0, true)
  | nothing => (0, true)
  | check _ => (0, true)
  | char _ => (1, true)
  | seq p q => ((extent p).1 + (extent q).1, (extent p).2 && (extent q).2)
  | alt p never => extent p
  | alt p q =>
    (min (extent p).1 (extent q).1, (extent p).2 && (extent q).2 && (extent p).1 == (extent q).1)
  | repeated least most _ p => (least * (extent p).1, (extent p).2 && most == some least)
  | group _ p => extent p
  | again _ => (0, false)
  | ahead _ _ => (0, true)
  | behind _ _ _ => (0, true)
  | atomic p => extent p

/-- The number of characters that every match has, if it is one and the same. -/
def width? (p : Pattern) : Option Nat := if (extent p).2 then some (extent p).1 else none

/-- What may be repeated: everything but tests of a place. -/
def isRepeatable : Pattern → Bool
  | nothing => false
  | check _ => false
  | ahead _ _ => false
  | behind _ _ _ => false
  | _ => true

/-- The pattern neither looks around nor refers back nor keeps to first ways. -/
def isRegular : Pattern → Bool
  | seq p q => isRegular p && isRegular q
  | alt p q => isRegular p && isRegular q
  | repeated _ _ _ p => isRegular p
  | group _ _ => false
  | again _ => false
  | ahead _ _ => false
  | behind _ _ _ => false
  | atomic _ => false
  | _ => true

/-- The set has members beyond ASCII, judged by two of them. -/
def isWide (set : CharSet) : Bool := set '\u00e9' || set '\u4e00'

/-- The number of states of a machine that reads bytes and matches the pattern. A character beyond ASCII takes
several states. -/
def weight : Pattern → Nat
  | char set => if isWide set then 12 else 1
  | seq p q => weight p + weight q
  | alt p q => weight p + weight q + 1
  | repeated least most _ p =>
    match most with
    | none => max least 1 * weight p + 1
    | some most => least * weight p + (most - least) * (weight p + 1)
  | group _ p => weight p + 2
  | ahead _ p => weight p
  | behind _ _ p => weight p
  | atomic p => weight p
  | _ => 1

/-- The pattern with only those groups that have one of the numbers. -/
def keeping (numbers : List Nat) : Pattern → Pattern
  | seq p q => seq (keeping numbers p) (keeping numbers q)
  | alt p q => alt (keeping numbers p) (keeping numbers q)
  | repeated least most greedy p => repeated least most greedy (keeping numbers p)
  | group n p => if numbers.contains n then group n (keeping numbers p) else keeping numbers p
  | ahead wanted p => ahead wanted (keeping numbers p)
  | behind wanted width p => behind wanted width (keeping numbers p)
  | atomic p => atomic (keeping numbers p)
  | p => p

end Pattern

end ProfileBindings
