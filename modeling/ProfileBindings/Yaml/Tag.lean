import ProfileBindings.Yaml.Scalar

/-!
# Tags of YAML texts

A tag is written in full between angle brackets, or as a handle and a suffix. Handles are declared by
directives at the head of a document.

Main definitions: `readTag`, `readHandle`, `readSuffix`, `isTagChar`.
-/

namespace ProfileBindings.Yaml

/-- The characters of tags. In full tags some marks of flow collections may stand too. -/
def isTagChar (full : Bool) (c : Char) : Bool :=
  isName c || c ∈ [';', '/', '?', ':', '@', '&', '=', '+', '$', '.', '%', '!', '~', '*', '\'', '(', ')']
    || (full && c ∈ [',', '[', ']'])

/-- The byte that two hexadecimal digits behind a percent sign stand for. -/
def readByte? (c : Cursor) : Option (UInt8 × Cursor) :=
  match c.rest with
  | '%' :: a :: b :: _ => do
    return (((← Text.hexValue? a) * 16 + (← Text.hexValue? b)).toUInt8, c.skip 3)
  | _ => none

/-- Further bytes of a character that is written by its bytes, behind those that were read. -/
def readBytes? : Nat → List UInt8 → Cursor → Option (List UInt8 × Cursor)
  | 0, seen, c => some (seen, c)
  | count + 1, seen, c =>
    match readByte? c with
    | some (byte, c) =>
      if byte.toNat / 64 = 2 then readBytes? count (seen ++ [byte]) c else none
    | none => none

/-- The bytes of a character. The first one says how many there are. -/
def readEscaped? (c : Cursor) : Option (List UInt8 × Cursor) := do
  let (lead, c) ← readByte? c
  let n := lead.toNat
  if n < 0x80 then some ([lead], c)
  else if n / 32 = 6 then readBytes? 1 [lead] c
  else if n / 16 = 14 then readBytes? 2 [lead] c
  else if n / 8 = 30 then readBytes? 3 [lead] c
  else none

/-- The bytes of a tag. -/
def readTagBytes (full : Bool) : Nat → List UInt8 → Cursor → Option (List UInt8 × Cursor)
  | 0, _, _ => none
  | fuel + 1, seen, c =>
    match c.rest with
    | [] => some (seen, c)
    | x :: _ =>
      if !isTagChar full x then some (seen, c)
      else if x == '%' then
        match readEscaped? c with
        | some (bytes, c) => readTagBytes full fuel (seen ++ bytes) c
        | none => none
      else readTagBytes full fuel (seen ++ [x.toNat.toUInt8]) (c.skip 1)

/-- The suffix of a tag behind what was read of it as a handle. A tag may not be empty; the exclamation mark
of such a handle is not part of the suffix. A zero byte ends the suffix, whatever follows it. -/
def readSuffix (full : Bool) (head : List Char) (c : Cursor) : Option (Tag × Cursor) :=
  match readTagBytes full (c.rest.length + 1) [] c with
  | none => none
  | some (bytes, next) =>
    if head.isEmpty && next.mark.index = c.mark.index then none
    else
      let bytes := (head.drop 1).map (·.toNat.toUInt8) ++ bytes
      some (⟨bytes.takeWhile (· != 0)⟩, next)

/-- What may be a handle: a mark, a name, and a mark if there is one. -/
def readHandle (c : Cursor) : Option (List Char × Cursor) :=
  match c.rest with
  | '!' :: rest =>
    let name := rest.takeWhile isName
    match rest.drop name.length with
    | '!' :: _ => some ('!' :: name ++ ['!'], c.skip (name.length + 2))
    | _ => some ('!' :: name, c.skip (name.length + 1))
  | _ => none

/-- A handle that is closed by a second mark. -/
def isClosedHandle (handle : List Char) : Bool := 2 ≤ handle.length && handle.getLast? == some '!'

/-- A tag as handle and suffix. A full tag has no handle, nor has the tag that is a lone mark. -/
def readTag (inFlow : Bool) (c : Cursor) : Option (String × Tag × Cursor) := do
  let (handle, suffix, c) ←
    match c.rest with
    | '!' :: '<' :: _ => do
      let (suffix, c) ← readSuffix true [] (c.skip 2)
      if c.head? == some '>' then some ([], suffix, c.skip 1) else none
    | _ => do
      let (handle, c) ← readHandle c
      if isClosedHandle handle then do
        let (suffix, c) ← readSuffix false [] c
        some (handle, suffix, c)
      else do
        let (suffix, c) ← readSuffix false handle c
        if suffix.isEmpty then some ([], .ofText "!", c) else some (['!'], suffix, c)
  if (inFlow && c.head? == some ',') || atBlank c.rest then
    some (String.ofList handle, suffix, c)
  else none

end ProfileBindings.Yaml
