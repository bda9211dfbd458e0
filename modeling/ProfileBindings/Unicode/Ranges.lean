import ProfileBindings.Text.Words

/-!
# Ranges of code points

Sets of code points by their bounds in ascending order. A code point is in the set if it has an odd number of
bounds at or below it, which is found by halving.

Main definitions: `countUpTo`, `Ranges`, `Ranges.ofLines`, `Ranges.contains`.
-/

namespace ProfileBindings.Unicode

/-- How many entries of an ascending array are at most `n`. -/
def countUpTo (entries : Array Nat) (n : Nat) : Nat := search 0 entries.size
where
  /-- The count, known to be at least `low` and at most `high`. -/
  search (low high : Nat) : Nat :=
    if low < high then
      let middle := (low + high) / 2
      if entries.getD middle 0 ≤ n then search (middle + 1) high else search low middle
    else low
  termination_by high - low

/-- A set of code points: where each range begins, and where it is over, in ascending order. -/
structure Ranges where
  bounds : Array Nat
deriving DecidableEq, Repr

namespace Ranges

/-- The code point is in the set. -/
def contains (r : Ranges) (n : Nat) : Bool := countUpTo r.bounds n % 2 == 1

/-- The bounds of a range in writing: two code points in base 16, or a single one. -/
def boundsOf (range : List Char) : List Nat :=
  match (Text.segments (· == '-') range).filterMap (Text.number? 16) with
  | [low, high] => [low, high + 1]
  | [n] => [n, n + 1]
  | _ => []

/-- The set of ranges that stand in lines, separated by blanks. -/
def ofLines (lines : List String) : Ranges :=
  ⟨(lines.flatMap fun line => (Text.segments (· == ' ') line.toList).flatMap boundsOf).toArray⟩

end Ranges

end ProfileBindings.Unicode
