import ProfileBindings.Decode.Fault
import ProfileBindings.Text.Words
import ProfileBindings.Yaml.Token

/-!
# What scalars stand for

A plain scalar may stand for nothing, for a truth value or for a number; every other scalar is a text. A
scalar with a tag of the core schema has to be what the tag says, however it is written; with any other tag
of that kind it is a text.

Main definitions: `plainMeaning`, `meaning`, and the readers of numbers `unsigned?`, `negative?`, `float?`.
-/

namespace ProfileBindings.Yaml

open Decode (Seen Fault)

/-- The words for nothing. -/
def isNullWord (s : String) : Bool := s ∈ ["~", "null", "Null", "NULL"]

/-- The words for truth values. -/
def truth? (s : String) : Option Bool :=
  if s ∈ ["true", "True", "TRUE"] then some true
  else if s ∈ ["false", "False", "FALSE"] then some false
  else none

/-- The text without a sign in front. -/
def dropSign : List Char → List Char
  | '+' :: rest => rest
  | '-' :: rest => rest
  | cs => cs

/-- The text without a plus in front. -/
def dropPlus : List Char → List Char
  | '+' :: rest => rest
  | cs => cs

/-- Digits with a zero in front are no number. -/
def hasLeadingZero (cs : List Char) : Bool :=
  match dropSign cs with
  | '0' :: d :: rest => (d :: rest).all Char.isDigit
  | _ => false

/-- A number with the mark of its base in front. -/
def based? : List Char → Option Nat
  | '0' :: 'x' :: rest => Text.number? 16 rest
  | '0' :: 'o' :: rest => Text.number? 8 rest
  | '0' :: 'b' :: rest => Text.number? 2 rest
  | _ => none

/-- A number without minus, of up to so many bits. -/
def unsigned? (bits : Nat) (cs : List Char) : Option Nat :=
  let fits (n : Nat) : Bool := n < Nat.pow 2 bits
  let body := dropPlus cs
  match (based? body).filter fits with
  | some n => some n
  | none => if hasLeadingZero cs then none else (Text.number? 10 body).filter fits

/-- A number with a minus in front, of up to so many bits including the sign. -/
def negative? (bits : Nat) : List Char → Option Int
  | '-' :: body =>
    let fits (n : Nat) : Bool := n ≤ Nat.pow 2 (bits - 1)
    let n : Option Nat := match (based? body).filter fits with
      | some n => some n
      | none => if hasLeadingZero body then none else (Text.number? 10 body).filter fits
    n.map fun n => -(n : Int)
  | _ => none

/-- The integer that a text stands for; an integer beyond 64 bits is wide. -/
def integer? (cs : List Char) : Option Seen :=
  match unsigned? 64 cs, negative? 64 cs with
  | some n, _ => some (.integer n)
  | none, some n => some (.integer n)
  | none, none =>
    match unsigned? 128 cs, negative? 128 cs with
    | some n, _ => some (.wideInteger false n)
    | none, some n => some (.wideInteger true n)
    | none, none => none

/-- The exponent of a decimal, behind its letter. -/
def exponent? (cs : List Char) : Option Int :=
  match cs with
  | '-' :: rest => (Text.number? 10 rest).map fun n => -(n : Int)
  | cs => (Text.number? 10 (dropPlus cs)).map fun n => (n : Int)

/-- The double nearest to `digits * 10 ^ exponent`. Exponents far beyond those of doubles are cut off. -/
def nearest (digits : Nat) (exponent : Int) : Float :=
  if digits = 0 then 0
  else
    let e := max (-100000) (min 100000 exponent)
    if 0 ≤ e then
      if 400 < e then Float.ofScientific 1 false 400 else Float.ofScientific digits false e.toNat
    else Float.ofScientific digits true (-e).toNat

/-- A decimal without sign: digits with or without a point, and an exponent. -/
def decimal? (cs : List Char) : Option Float := do
  let whole := cs.takeWhile Char.isDigit
  let rest := cs.dropWhile Char.isDigit
  let (fraction, rest) := match rest with
    | '.' :: rest => (rest.takeWhile Char.isDigit, rest.dropWhile Char.isDigit)
    | rest => ([], rest)
  let digits ← Text.number? 10 (whole ++ fraction)
  let exponent ← match rest with
    | [] => some 0
    | 'e' :: rest => exponent? rest
    | 'E' :: rest => exponent? rest
    | _ => none
  return nearest digits (exponent - fraction.length)

/-- The finite decimal that a text stands for. -/
def finite? (cs : List Char) : Option Float :=
  let float := match cs with
    | '-' :: rest => (decimal? rest).map (- ·)
    | '+' :: rest => decimal? rest
    | cs => decimal? cs
  float.filter Float.isFinite

/-- The double that a text stands for. -/
def float? (s : String) : Option Float :=
  let cs := s.toList
  match cs with
  | '+' :: '+' :: _ => none
  | '+' :: '-' :: _ => none
  | _ =>
    if String.ofList (dropPlus cs) ∈ [".inf", ".Inf", ".INF"] then some (1 / 0)
    else if s ∈ ["-.inf", "-.Inf", "-.INF"] then some (-1 / 0)
    else if s ∈ [".nan", ".NaN", ".NAN"] then some (0 / 0)
    else finite? cs

/-- What a plain scalar without tag stands for. -/
def plainMeaning (s : String) : Seen :=
  if s.isEmpty || isNullWord s then .nothing
  else
    match truth? s, integer? s.toList with
    | some b, _ => .boolean b
    | none, some n => n
    | none, none =>
      if hasLeadingZero s.toList then .text s
      else match float? s with
        | some f => .float f.toBits
        | none => .text s

/-- The tags of the core schema. -/
def coreTag (name : String) : Tag := .ofText ("tag:yaml.org,2002:" ++ name)

/-- The name of a tag that only the document knows: what stands behind an exclamation mark. -/
def localName? (tag : Tag) : Option (List UInt8) :=
  match tag.bytes with
  | mark :: name => if mark.toNat = '!'.toNat then some name else none
  | [] => none

/-- The tag is one that only the document knows. -/
def isLocalTag (tag : Tag) : Bool := (localName? tag).isSome

/-- The tag gives a name to the kind of a value. -/
def namesKind (tag : Tag) : Bool :=
  (localName? tag).any fun name => (String.fromUTF8? ⟨name.toArray⟩).isSome

/-- What a scalar stands for. -/
def meaning (tag : Option Tag) (s : String) (style : Style) : Except Fault Seen :=
  let demand (found : Option Seen) (expected : String) : Except Fault Seen :=
    match found with
    | some v => .ok v
    | none => .error (.invalidValue (.text s) expected)
  let untagged : Seen := if style = .plain then plainMeaning s else .text s
  match tag with
  | none => .ok untagged
  | some tag =>
    if tag = coreTag "bool" then demand ((truth? s).map .boolean) "a boolean"
    else if tag = coreTag "int" then demand (integer? s.toList) "an integer"
    else if tag = coreTag "float" then demand ((float? s).map fun f => .float f.toBits) "a float"
    else if tag = coreTag "null" then demand (if isNullWord s then some .nothing else none) "null"
    else if isLocalTag tag then .ok untagged
    else .ok (.text s)

end ProfileBindings.Yaml
