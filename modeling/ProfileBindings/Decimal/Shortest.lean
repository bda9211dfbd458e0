/-!
# Shortest decimals

A double is read back correctly from any decimal that lies between its two neighbours' midpoints. Among
those decimals `shortest` takes one with the fewest digits, and of several with equally many the one
nearest to the double. The search runs over the grids of one, two, … seventeen digits and tests the two
grid points around the value, all in exact arithmetic on natural numbers.

A shortest decimal says which digits are written; a `Layout` says how: up to which place of the decimal
point they are written out, and from where an exponent follows the digits. A number always shows that it
is no integer, by a point or by an exponent.

Main definitions:
* `Binary` : a positive finite double as `mantissa * 2 ^ exponent`;
* `Scaled` : a decimal as `digits * 10 ^ exponent`;
* `shortest` : the shortest decimal that reads back as the given double;
* `Layout` with its two values `document` and `everyday`, and `write`.
-/

namespace ProfileBindings.Decimal

/-- A positive finite double: `mantissa * 2 ^ exponent`. `isBoundary` holds at a power of two, where the
neighbour below is only half as far away as the one above. -/
structure Binary where
  mantissa : Nat
  exponent : Int
  isBoundary : Bool

/-- The binary fraction that the low 63 bits of a finite double stand for, the sign being dropped. -/
def Binary.ofBits (bits : UInt64) : Binary :=
  let fraction : Nat := bits.toNat % Nat.pow 2 52
  let biased : Nat := bits.toNat / Nat.pow 2 52 % Nat.pow 2 11
  if biased = 0 then ⟨fraction, -1074, false⟩
  else ⟨Nat.pow 2 52 + fraction, (biased : Int) - 1075, fraction = 0 && biased ≠ 1⟩

/-- `digits * 10 ^ exponent`. -/
structure Scaled where
  digits : Nat
  exponent : Int
deriving DecidableEq, Repr

/-- How many decimal digits a number has; zero has one. -/
def digitCount (n : Nat) : Nat := (Nat.toDigits 10 n).length

/-- The exponent of the leading digit of `4 * mantissa * 2 ^ (exponent - 2)`, for a positive mantissa. -/
def Binary.magnitude (b : Binary) : Int :=
  let shift := b.exponent - 2
  let num := 4 * b.mantissa * Nat.pow 2 shift.toNat
  let den := Nat.pow 2 (-shift).toNat
  if den ≤ num then digitCount (num / den) - 1
  else
    let count := digitCount (den / num)
    if den = num * Nat.pow 10 (count - 1) then 1 - (count : Int) else -(count : Int)

/-- The grid points `d` and `d + 1` around the value on the grid of multiples of `10 ^ unit`, nearest
first, kept only if they read back as the value. An exact tie goes to the even point. -/
def Binary.candidates (b : Binary) (unit : Int) : List Nat :=
  let shift := b.exponent - 2
  -- every quantity is multiplied by `2 ^ (-shift) * 10 ^ (-unit)` where these exponents are positive
  let scale := Nat.pow 2 shift.toNat * Nat.pow 10 (-unit).toNat
  let step := Nat.pow 2 (-shift).toNat * Nat.pow 10 unit.toNat
  let value := 4 * b.mantissa * scale
  let low := (4 * b.mantissa - if b.isBoundary then 1 else 2) * scale
  let high := (4 * b.mantissa + 2) * scale
  let closed := b.mantissa % 2 = 0
  let reads (d : Nat) : Bool :=
    let p := d * step
    if closed then low ≤ p && p ≤ high else low < p && p < high
  let d := value / step
  let below := value - d * step
  let above := (d + 1) * step - value
  let ordered :=
    if below < above || (below = above && d % 2 = 0) then [d, d + 1] else [d + 1, d]
  ordered.filter fun p => 0 < p && reads p

/-- The decimal with at most `count` zeros taken off the end of its digits. -/
def Scaled.trim : Nat → Scaled → Scaled
  | 0, d => d
  | count + 1, d =>
    if d.digits ≠ 0 && d.digits % 10 = 0 then trim count ⟨d.digits / 10, d.exponent + 1⟩ else d

/-- The search on the grids of `18 - fuel`, … seventeen digits. Seventeen digits always suffice, so the
last case is never reached from `shortest`. -/
def Binary.search (b : Binary) : Nat → Scaled
  | 0 => ⟨0, 0⟩
  | fuel + 1 =>
    let unit := b.magnitude - (17 - (fuel : Int)) + 1
    match b.candidates unit with
    | d :: _ => Scaled.trim 18 ⟨d, unit⟩
    | [] => search b fuel

/-- The shortest decimal that reads back as the double, its sign being dropped; zero for zero. -/
def shortest (bits : UInt64) : Scaled :=
  let b := Binary.ofBits bits
  if b.mantissa = 0 then ⟨0, 0⟩ else b.search 17

/-! ## Layouts -/

/-- The places of the decimal point, counted in digits from the front of the number, at which digits are
written without an exponent. `none` allows every place. -/
structure Layout where
  places : Option (Int × Int)

/-- Numbers of a document: written out while the point stands at most four zeros before and sixteen
digits behind the first digit, otherwise with an exponent. -/
def Layout.document : Layout := ⟨some (-4, 16)⟩

/-- Numbers in running text: never an exponent. -/
def Layout.everyday : Layout := ⟨none⟩

/-- The layout writes a number with its point at this place without an exponent. -/
def Layout.allows (l : Layout) (point : Int) : Bool :=
  match l.places with
  | none => true
  | some (least, most) => least ≤ point && point ≤ most

/-- Digits with a point after the first `point` of them, zeros being filled in on either side. -/
def positional (digits : String) (point : Int) : String :=
  let count : Int := digits.length
  let zeros (n : Int) : String := String.ofList (List.replicate n.toNat '0')
  if point ≤ 0 then "0." ++ zeros (-point) ++ digits
  else if count ≤ point then digits ++ zeros (point - count) ++ ".0"
  else
    String.ofList (digits.toList.take point.toNat) ++ "." ++ String.ofList (digits.toList.drop point.toNat)

/-- Digits with a point after the first one and the exponent, which shows its sign, behind. -/
def scientific (digits : String) (point : Int) : String :=
  let exponent := (if point ≤ 0 then "e" else "e+") ++ toString (point - 1)
  match digits.toList with
  | [] => exponent
  | [d] => d.toString ++ exponent
  | d :: ds => d.toString ++ "." ++ String.ofList ds ++ exponent

/-- A double as text. The infinities and the undefined number are words, whatever the layout. -/
def write (l : Layout) (bits : UInt64) : String :=
  let sign := if bits.toNat < Nat.pow 2 63 then "" else "-"
  if bits.toNat / Nat.pow 2 52 % Nat.pow 2 11 = 2047 then
    if bits.toNat % Nat.pow 2 52 = 0 then sign ++ "inf" else "NaN"
  else
    let d := shortest bits
    if d.digits = 0 then sign ++ "0.0"
    else
      let digits := toString d.digits
      let point : Int := digits.length + d.exponent
      sign ++ if l.allows point then positional digits point else scientific digits point

end ProfileBindings.Decimal
