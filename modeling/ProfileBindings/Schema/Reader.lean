import ProfileBindings.Json.Equality
import ProfileBindings.Pattern.Reader
import ProfileBindings.Schema.Basic
import ProfileBindings.Schema.Reference

/-!
# Reading schemas

The schema that a value stands for. A value is a schema only if every keyword in it has a value of its
kind, wherever it stands; beyond that, every pattern and every reference that the outermost schema leads to
has to make sense. Keywords that are not known demand nothing.

Main definitions:
* `Form` and `formOf` : the kinds of values that keywords take;
* `isWellFormed` : every keyword has a value of its kind;
* `Schema.read?` : the schema of a value;
* `Root.read?` : a schema with everything that it refers to.
-/

namespace ProfileBindings.Schema

/-! ## Well-formed schemas -/

/-- The kinds of values that keywords take. -/
inductive Form where
  | schema
  | schemas
  | namedSchemas
  | text
  | flag
  | count
  | list
  | types
  | distinctTexts
  | identity
deriving DecidableEq, Repr

/-- The kind of value of each keyword. -/
def formOf (keyword : String) : Option Form :=
  [("type", Form.types), ("required", .distinctTexts), ("properties", .namedSchemas),
    ("additionalProperties", .schema), ("propertyNames", .schema), ("items", .schema),
    ("oneOf", .schemas), ("$defs", .namedSchemas), ("minProperties", .count), ("minLength", .count),
    ("minItems", .count), ("uniqueItems", .flag), ("pattern", .text), ("$ref", .text),
    ("$schema", .text), ("$id", .identity), ("$comment", .text), ("title", .text),
    ("description", .text), ("format", .text), ("deprecated", .flag), ("readOnly", .flag),
    ("writeOnly", .flag), ("examples", .list)].lookup keyword

/-- The greatest count. -/
def greatestCount : Nat := Nat.pow 2 64 - 1

/-- A number that counts: whole and not negative. A number beyond the greatest count stands for that one. -/
def countOf? (v : Json) : Option Nat :=
  match v.amount? with
  | none => none
  | some a =>
    if a.isIntegral && 0 ≤ a.mantissa then
      let count := a.mantissa.toNat * Nat.pow 2 a.exponent.toNat / Nat.pow 2 (-a.exponent).toNat
      some (min greatestCount count)
    else none

/-- Texts of a list, if there is nothing else in it. -/
def textsOf? (items : List Json) : Option (List String) :=
  items.mapM fun
    | .str s => some s
    | _ => none

/-- The types that are asked for: one, or a list of different ones. They are put in alphabetical order. -/
def typesOf? : Json → Option (List ValueType)
  | .str s => (ValueType.ofWord? s).map ([·])
  | .arr items => do
    let types ← (← textsOf? items).mapM ValueType.ofWord?
    if types.isEmpty || !decide types.Nodup then none else some (ValueType.all.filter types.contains)
  | _ => none

/-- The text names no part of a schema. -/
def isIdentity (s : String) : Bool :=
  match s.toList.dropWhile (· != '#') with
  | [] => true
  | [_] => true
  | _ => false

/-- A value has a form that does not involve further schemas. -/
def hasPlainForm (form : Form) (v : Json) : Bool :=
  match form, v with
  | .text, .str _ => true
  | .flag, .bool _ => true
  | .list, .arr _ => true
  | .identity, .str s => isIdentity s
  | .count, v => (countOf? v).isSome
  | .types, v => (typesOf? v).isSome
  | .distinctTexts, .arr items => ((textsOf? items).map fun texts => decide texts.Nodup).getD false
  | _, _ => false

mutual

/-- Every keyword has a value of its kind. -/
def isWellFormed : Json → Bool
  | .bool _ => true
  | .obj fields => areKeywordsWellFormed fields
  | _ => false

/-- The keywords of one schema have values of their kinds. -/
def areKeywordsWellFormed : List (String × Json) → Bool
  | [] => true
  | (keyword, v) :: rest =>
    (match formOf keyword with
      | none => true
      | some .schema => isWellFormed v
      | some .schemas =>
        match v with
        | .arr [] => false
        | .arr items => areWellFormed items
        | _ => false
      | some .namedSchemas =>
        match v with
        | .obj fields => areMembersWellFormed fields
        | _ => false
      | some form => hasPlainForm form v)
    && areKeywordsWellFormed rest

/-- The items of a list are schemas. -/
def areWellFormed : List Json → Bool
  | [] => true
  | v :: rest => isWellFormed v && areWellFormed rest

/-- The members of an object are schemas. -/
def areMembersWellFormed : List (String × Json) → Bool
  | [] => true
  | (_, v) :: rest => isWellFormed v && areMembersWellFormed rest

end

/-! ## The schema of a value -/

/-- Other properties than the known ones are constrained: the known ones then belong to that demand. -/
def constrainsOthers (fields : Json.Fields) : Bool :=
  match fields.get? "additionalProperties" with
  | some (.bool false) => true
  | some (.obj _) => true
  | _ => false

mutual

/-- The schema of a well-formed value. -/
def read? : Json → Option Schema
  | .bool b => some (.always b)
  | .obj fields => do
    let known ← readKnown? fields
    let demands ← readDemands? known (Json.Fields.get? "properties" fields).isSome
      (constrainsOthers fields) fields
    some (.all demands.flatten)
  | _ => none

/-- The properties that a schema knows. -/
def readKnown? : List (String × Json) → Option (List (String × Schema))
  | [] => some []
  | (keyword, v) :: rest =>
    if keyword = "properties" then
      match v with
      | .obj fields => readNamed? fields
      | _ => none
    else readKnown? rest

/-- The demands of the keywords, in their order. -/
def readDemands? (known : List (String × Schema)) (hasKnown constrained : Bool) :
    List (String × Json) → Option (List (List Demand))
  | [] => some []
  | (keyword, v) :: rest => do
    let demands ← match keyword, v with
      | "type", v => (typesOf? v).map fun types => [.hasType types]
      | "required", .arr items => (textsOf? items).map fun names => [.required names]
      | "properties", _ => some (if constrained then [] else [.properties known])
      | "additionalProperties", .bool false =>
        some [if hasKnown then .onlyProperties known else .noProperties]
      | "additionalProperties", .bool true => some []
      | "additionalProperties", v => (read? v).map fun other => [.propertiesOr known other]
      | "minProperties", v => (countOf? v).map fun least => [.minProperties least]
      | "propertyNames", .bool false => some [.noPropertyNames]
      | "propertyNames", .bool true => some []
      | "propertyNames", v => (read? v).map fun schema => [.propertyNames schema]
      | "pattern", .str s => (Pattern.read? s).map fun pattern => [.pattern s pattern]
      | "minLength", v => (countOf? v).map fun least => [.minLength least]
      | "items", v => (read? v).map fun schema => [.items schema]
      | "minItems", v => (countOf? v).map fun least => [.minItems least]
      | "uniqueItems", .bool true => some [.uniqueItems]
      | "oneOf", .arr items => (readList? items).map fun choices => [.oneOf choices]
      | "$ref", .str name => some [.named name]
      | _, _ => some []
    let others ← readDemands? known hasKnown constrained rest
    some (demands :: others)

/-- Schemas by name. -/
def readNamed? : List (String × Json) → Option (List (String × Schema))
  | [] => some []
  | (name, v) :: rest => do
    let schema ← read? v
    let others ← readNamed? rest
    some ((name, schema) :: others)

/-- Schemas of a list. -/
def readList? : List Json → Option (List Schema)
  | [] => some []
  | v :: rest => do
    let schema ← read? v
    let others ← readList? rest
    some (schema :: others)

end

/-! ## References -/

mutual

/-- The names that a schema refers to. -/
def names : Schema → List String
  | .always _ => []
  | .all demands => namesOfDemands demands

/-- The names that demands refer to. -/
def namesOfDemands : List Demand → List String
  | [] => []
  | d :: rest => namesOfDemand d ++ namesOfDemands rest

/-- The names that one demand refers to. -/
def namesOfDemand : Demand → List String
  | .named name => [name]
  | .properties known => namesOfKnown known
  | .onlyProperties known => namesOfKnown known
  | .propertiesOr known other => namesOfKnown known ++ names other
  | .propertyNames schema => names schema
  | .items schema => names schema
  | .oneOf choices => namesOfChoices choices
  | _ => []

/-- The names that known properties refer to. -/
def namesOfKnown : List (String × Schema) → List String
  | [] => []
  | (_, schema) :: rest => names schema ++ namesOfKnown rest

/-- The names that choices refer to. -/
def namesOfChoices : List Schema → List String
  | [] => []
  | schema :: rest => names schema ++ namesOfChoices rest

end

/-- The number of values inside a value, itself included. -/
def valueCount : Json → Nat
  | .arr items => 1 + ofItems items
  | .obj fields => 1 + ofFields fields
  | _ => 1
where
  /-- The number of values in items. -/
  ofItems : List Json → Nat
    | [] => 0
    | v :: rest => valueCount v + ofItems rest
  /-- The number of values in members. -/
  ofFields : List (String × Json) → Nat
    | [] => 0
    | (_, v) :: rest => valueCount v + ofFields rest

/-- The library with the schemas of pending names and of all names that these refer to. Every step either
drops a pending name or takes a new one into the library. -/
def gather? (root : Json) : Nat → List String → Library → Option Library
  | 0, _, library => some library
  | _ + 1, [], library => some library
  | fuel + 1, name :: pending, library =>
    if (library.map Prod.fst).contains name then gather? root fuel pending library
    else do
      let v ← (Pointer.ofReference? name).bind (Pointer.at? · root)
      let schema ← read? v
      gather? root fuel (names schema ++ pending) (library ++ [(name, schema)])

/-- The schema of a value with everything that it refers to. -/
def Root.read? (v : Json) : Option Root :=
  if isWellFormed v then do
    let schema ← Schema.read? v
    let size := valueCount v
    let library ← gather? v ((size + 1) * (size + 1) + 1) (names schema) []
    some ⟨schema, library⟩
  else none

end ProfileBindings.Schema
