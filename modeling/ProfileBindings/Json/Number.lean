import ProfileBindings.Json.Basic
import ProfileBindings.Json.Fault

/-!
# JSON numbers

The value of a number as it is read: the first digits, as many as fit into 64 bits, are the significand;
the digits behind them only move the decimal exponent. A number without point and exponent whose
significand took every digit is an integer. Any other number is the significand, as a double, multiplied
or divided by a power of ten, in one step while the power is a double itself.

Main definitions:
* `absorb` : the digits that fit into 64 bits;
* `scale` : a significand moved by a decimal exponent;
* `readNumber` : the number at the front of a text whose sign has been read.
-/

namespace ProfileBindings.Json

/-- What a reader step gives: a value with the rest of the text, or a cause with the number of bytes that
were still ahead when it was noticed. -/
abbrev Step (α : Type) := Except (Cause × Nat) (α × List Char)

/-- Go on with the value and the rest of the text that a step gave. -/
def Step.andThen {α β : Type} (step : Step α) (next : α → List Char → Step β) : Step β :=
  match step with
  | .error fault => .error fault
  | .ok (value, rest) => next value rest

/-- The number of bytes that a text takes in UTF-8. -/
def byteCount (cs : List Char) : Nat := cs.foldl (fun n c => n + c.utf8Size) 0

/-- A fault noticed before the next byte. -/
def faultHere {α : Type} (cause : Cause) (rest : List Char) : Step α :=
  .error (cause, byteCount rest)

/-- A fault in the next byte. -/
def faultAhead {α : Type} (cause : Cause) (rest : List Char) : Step α :=
  .error (cause, byteCount rest - 1)

/-- The number that a digit stands for. -/
def digitValue (c : Char) : Nat := c.toNat - '0'.toNat

/-- The greatest number of 64 bits. -/
def wordLimit : Nat := Nat.pow 2 64 - 1

/-- Append digits to a significand while it fits into 64 bits: the significand, how many digits were
taken, and what follows them. -/
def absorb (significand count : Nat) : List Char → Nat × Nat × List Char
  | [] => (significand, count, [])
  | c :: cs =>
    let next := significand * 10 + digitValue c
    if c.isDigit && next ≤ wordLimit then absorb next (count + 1) cs else (significand, count, c :: cs)

/-- `10 ^ n` as a double, for `n` up to 308. -/
def powerOfTen (n : Nat) : Float := Float.ofScientific 1 false n

/-- `f / 10 ^ n`, in steps that the powers of ten allow; once the quotient is zero it stays zero. -/
def divideByPower (f : Float) (n : Nat) : Float :=
  if n ≤ 308 then f / powerOfTen n
  else if f == 0 then f
  else divideByPower (f / powerOfTen 308) (n - 308)
termination_by n

/-- The double `significand * 10 ^ exponent`, or `none` if it is too large. -/
def scale (significand : Nat) (exponent : Int) : Option Float :=
  let f := significand.toUInt64.toFloat
  if 0 ≤ exponent then
    if exponent ≤ 308 then
      let g := f * powerOfTen exponent.toNat
      if g.isInf then none else some g
    else if f == 0 then some f
    else none
  else some (divideByPower f (-exponent).toNat)

/-- The double as a value, with the sign that was read. -/
def ofFloat (positive : Bool) (f : Float) : Json := .float (if positive then f else -f).toBits

/-- A number whose exponent is known, read up to `rest`. -/
def scaled (positive : Bool) (significand : Nat) (exponent : Int) (rest : List Char) : Step Json :=
  match scale significand exponent with
  | some f => .ok (ofFloat positive f, rest)
  | none => faultHere .numberOutOfRange rest

/-- The digits of an exponent behind the first one, read while the exponent stays below `2 ^ 31`. -/
def exponentDigits (exponent : Nat) : List Char → Option Nat × List Char
  | [] => (some exponent, [])
  | c :: cs =>
    if c.isDigit then
      let next := exponent * 10 + digitValue c
      if next < Nat.pow 2 31 then exponentDigits next cs else (none, cs)
    else (some exponent, c :: cs)

/-- The exponent behind its letter. An exponent of `2 ^ 31` or more is too large, unless it only makes
the number smaller or the significand is zero: then the number is zero. -/
def readExponent (positive : Bool) (significand : Nat) (start : Int) (cs : List Char) : Step Json :=
  let (up, cs) := match cs with
    | '+' :: cs => (true, cs)
    | '-' :: cs => (false, cs)
    | cs => (true, cs)
  match cs with
  | [] => faultHere .endInValue []
  | c :: rest =>
    if c.isDigit then
      match exponentDigits (digitValue c) rest with
      | (some n, rest) => scaled positive significand (if up then start + n else start - n) rest
      | (none, rest) =>
        if significand ≠ 0 && up then faultHere .numberOutOfRange rest
        else .ok (ofFloat positive 0, rest.dropWhile Char.isDigit)
    else faultAhead .invalidNumber cs

/-- What may follow the digits: an exponent or nothing. -/
def exponentOrEnd (positive : Bool) (significand : Nat) (exponent : Int) (cs : List Char) : Step Json :=
  match cs with
  | 'e' :: rest => readExponent positive significand exponent rest
  | 'E' :: rest => readExponent positive significand exponent rest
  | _ => scaled positive significand exponent cs

/-- The digits behind the point. At least one has to follow. -/
def readFraction (positive : Bool) (significand : Nat) (exponent : Int) (cs : List Char) : Step Json :=
  match absorb significand 0 cs with
  | (significand, count, rest) =>
    if (rest.head?.map Char.isDigit).getD false then
      exponentOrEnd positive significand (exponent - count) (rest.dropWhile Char.isDigit)
    else if count = 0 then
      if rest.isEmpty then faultAhead .endInValue rest else faultAhead .invalidNumber rest
    else exponentOrEnd positive significand (exponent - count) rest

/-- An integer as a value. Negative zero and integers beyond 64 bits are doubles. -/
def ofInteger (positive : Bool) (significand : Nat) : Json :=
  if positive then .int significand
  else if significand ≠ 0 && significand ≤ Nat.pow 2 63 then .int (-(significand : Int))
  else ofFloat false significand.toUInt64.toFloat

/-- What may follow the integer part: a fraction, an exponent or nothing. -/
def afterInteger (positive : Bool) (significand : Nat) (cs : List Char) : Step Json :=
  match cs with
  | '.' :: rest => readFraction positive significand 0 rest
  | 'e' :: rest => readExponent positive significand 0 rest
  | 'E' :: rest => readExponent positive significand 0 rest
  | _ => .ok (ofInteger positive significand, cs)

/-- The number at the front of a text, its sign having been read. A zero in front stands alone. -/
def readNumber (positive : Bool) (cs : List Char) : Step Json :=
  match cs with
  | [] => faultHere .endInValue []
  | c :: rest =>
    if c == '0' then
      if (rest.head?.map Char.isDigit).getD false then faultAhead .invalidNumber rest
      else afterInteger positive 0 rest
    else if c.isDigit then
      match absorb 0 0 cs with
      | (significand, _, rest) =>
        let surplus := (rest.takeWhile Char.isDigit).length
        if surplus = 0 then afterInteger positive significand rest
        else match rest.dropWhile Char.isDigit with
          | '.' :: rest => readFraction positive significand surplus rest
          | rest => exponentOrEnd positive significand surplus rest
    else faultAhead .invalidNumber cs

end ProfileBindings.Json
