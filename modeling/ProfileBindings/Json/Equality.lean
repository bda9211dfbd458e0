import ProfileBindings.Json.Basic
import ProfileBindings.Decimal.Shortest

/-!
# Equality of values

Two values are equal if they say the same: numbers are compared by what they stand for, so that `1` and
`1.0` are equal, lists item by item, and objects member by member in their order. Whether the two zeros are
told apart is up to the caller.

Main definitions: `Json.Amount` (the exact amount of a number), `Json.isIntegral`, `Json.alike`,
`Json.allDistinct`.
-/

namespace ProfileBindings.Json

/-- The exact amount `mantissa * 2 ^ exponent` of a number. -/
structure Amount where
  mantissa : Int
  exponent : Int

/-- The amount of a finite double. -/
def Amount.ofBits (bits : UInt64) : Amount :=
  let b := Decimal.Binary.ofBits bits
  ⟨if bits.toNat < Nat.pow 2 63 then b.mantissa else -b.mantissa, b.exponent⟩

/-- The two amounts are equal. -/
def Amount.alike (a b : Amount) : Bool :=
  let least := min a.exponent b.exponent
  a.mantissa * Nat.pow 2 (a.exponent - least).toNat =
    b.mantissa * Nat.pow 2 (b.exponent - least).toNat

/-- The amount is a whole number. -/
def Amount.isIntegral (a : Amount) : Bool :=
  0 ≤ a.exponent || a.mantissa % Nat.pow 2 (-a.exponent).toNat = 0

/-- The amount of a number; other values have none. -/
def amount? : Json → Option Amount
  | int n => some ⟨n, 0⟩
  | float bits => some (.ofBits bits)
  | _ => none

/-- The number is whole; other values are not. -/
def isIntegral (v : Json) : Bool :=
  match v.amount? with
  | some a => a.isIntegral
  | none => false

/-- The zero below all positive numbers. -/
def isNegativeZero : Json → Bool
  | float bits => bits.toNat == Nat.pow 2 63
  | _ => false

/-- Two numbers have the same amount. -/
def sameAmount (signedZeros : Bool) (v w : Json) : Bool :=
  match v.amount?, w.amount? with
  | some a, some b => a.alike b && (!signedZeros || v.isNegativeZero == w.isNegativeZero)
  | _, _ => false

mutual

/-- The values say the same. -/
def alike (signedZeros : Bool) : Json → Json → Bool
  | null, null => true
  | bool a, bool b => a == b
  | str a, str b => a == b
  | arr a, arr b => alikeItems signedZeros a b
  | obj a, obj b => alikeMembers signedZeros a b
  | int a, w => sameAmount signedZeros (int a) w
  | float a, w => sameAmount signedZeros (float a) w
  | _, _ => false

/-- The lists say the same, item by item. -/
def alikeItems (signedZeros : Bool) : List Json → List Json → Bool
  | [], [] => true
  | v :: vs, w :: ws => alike signedZeros v w && alikeItems signedZeros vs ws
  | _, _ => false

/-- The objects say the same, member by member. -/
def alikeMembers (signedZeros : Bool) : List (String × Json) → List (String × Json) → Bool
  | [], [] => true
  | (k, v) :: vs, (l, w) :: ws =>
    k == l && alike signedZeros v w && alikeMembers signedZeros vs ws
  | _, _ => false

end

/-- No value says the same as a later one. -/
def noRepeats (signedZeros : Bool) : List Json → Bool
  | [] => true
  | v :: rest => !rest.any (alike signedZeros v) && noRepeats signedZeros rest

/-- All items are distinct. Lists of more than fifteen items tell the two zeros apart. -/
def allDistinct (items : List Json) : Bool := noRepeats (15 < items.length) items

end ProfileBindings.Json
