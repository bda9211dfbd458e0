import ProfileBindings.Json.Equality
import ProfileBindings.Pattern.Matching
import ProfileBindings.Schema.Basic

/-!
# Validation

All violations of a schema by a value, in the order of the demands. The properties of an object are walked
in the order of the schema; where other properties have demands too, in the order of the object.

A schema is finite, but the schemas that it names may name each other. What a name stands for is therefore
a parameter of the functions on one schema; `violationsWithin` ties the knot for a bounded number of names
on a path, and `Root.violations` chooses a bound that no value exceeds.

Main definitions: `Schema.violations`, `Root.violationsWithin`, `Root.violations`.
-/

namespace ProfileBindings.Schema

/-- Where a validation stands: in the value, and in the schema. -/
structure Site where
  instancePlace : Pointer
  schemaPlace : Pointer

namespace Site

/-- The demand of a keyword. -/
def keyword (site : Site) (word : String) : Site := { site with schemaPlace := site.schemaPlace ++ [word] }

/-- A part of the value. -/
def part (site : Site) (step : String) : Site :=
  { site with instancePlace := site.instancePlace ++ [step] }

/-- A violation at this site. -/
def violation (site : Site) (cause : Violation.Cause) : Violation :=
  ⟨site.instancePlace, site.schemaPlace, cause⟩

end Site

/-- A value has a type. -/
def ValueType.covers (t : ValueType) (v : Json) : Bool :=
  match v with
  | .null => t = .null
  | .bool _ => t = .boolean
  | .int _ => t = .integer || t = .number
  | .float _ => t = .number || (t = .integer && v.isIntegral)
  | .str _ => t = .string
  | .arr _ => t = .array
  | .obj _ => t = .object

/-- How a name is followed: the violations of the schema that it stands for. -/
abbrev Follow := String → Site → Json → List Violation

mutual

/-- The violations of a schema by a value. -/
def violations (follow : Follow) : Schema → Site → Json → List Violation
  | .always true, _, _ => []
  | .always false, site, v => [site.violation (.forbidden v)]
  | .all demands, site, v => demandsViolations follow demands site v

/-- The violations of demands in their order. -/
def demandsViolations (follow : Follow) : List Demand → Site → Json → List Violation
  | [], _, _ => []
  | d :: rest, site, v => demandViolations follow d site v ++ demandsViolations follow rest site v

/-- The violations of one demand. -/
def demandViolations (follow : Follow) : Demand → Site → Json → List Violation
  | .hasType types, site, v =>
    if types.any (·.covers v) then [] else [(site.keyword "type").violation (.wrongType v types)]
  | .required names, site, v =>
    match v with
    | .obj fields =>
      (names.filter fun name => !(Json.Fields.keys fields).contains name).map fun name =>
        (site.keyword "required").violation (.missing name)
    | _ => []
  | .properties known, site, v =>
    match v with
    | .obj fields => knownViolations follow known (site.keyword "properties") fields
    | _ => []
  | .propertiesOr known other, site, v =>
    match v with
    | .obj fields => fields.flatMap fun field =>
      match propertyViolations? follow known (site.keyword "properties") field.1 field.2 with
      | some found => found
      | none =>
        violations follow other ((site.keyword "additionalProperties").part field.1) field.2
    | _ => []
  | .onlyProperties known, site, v =>
    match v with
    | .obj fields =>
      let atKnown := fields.flatMap fun field =>
        (propertyViolations? follow known (site.keyword "properties") field.1 field.2).getD []
      let others := (Json.Fields.keys fields).filter fun name => !(known.map Prod.fst).contains name
      atKnown ++
        if others.isEmpty then []
        else [(site.keyword "additionalProperties").violation (.unexpected others)]
    | _ => []
  | .noProperties, site, v =>
    match v with
    | .obj (field :: _) => [(site.keyword "additionalProperties").violation (.forbidden field.2)]
    | _ => []
  | .minProperties least, site, v =>
    match v with
    | .obj fields =>
      if fields.length < least then
        [(site.keyword "minProperties").violation (.tooFewProperties v least)]
      else []
    | _ => []
  | .propertyNames schema, site, v =>
    match v with
    | .obj fields => fields.flatMap fun field =>
      violations follow schema (site.keyword "propertyNames") (.str field.1)
    | _ => []
  | .noPropertyNames, site, v =>
    match v with
    | .obj (_ :: _) => [(site.keyword "propertyNames").violation (.forbidden v)]
    | _ => []
  | .pattern written pattern, site, v =>
    match v with
    | .str s =>
      if pattern.occursIn s then [] else [(site.keyword "pattern").violation (.noMatch v written)]
    | _ => []
  | .minLength least, site, v =>
    match v with
    | .str s =>
      if s.length < least then [(site.keyword "minLength").violation (.tooShort v least)] else []
    | _ => []
  | .items schema, site, v =>
    match v with
    | .arr items => items.zipIdx.flatMap fun item =>
      violations follow schema ((site.keyword "items").part (toString item.2)) item.1
    | _ => []
  | .minItems least, site, v =>
    match v with
    | .arr items =>
      if items.length < least then [(site.keyword "minItems").violation (.tooFewItems v least)]
      else []
    | _ => []
  | .uniqueItems, site, v =>
    match v with
    | .arr items =>
      if Json.allDistinct items then [] else [(site.keyword "uniqueItems").violation (.repeatedItem v)]
    | _ => []
  | .oneOf choices, site, v =>
    match metCount follow choices site v with
    | 0 => [(site.keyword "oneOf").violation (.noneOf v)]
    | 1 => []
    | _ => [(site.keyword "oneOf").violation (.severalOf v)]
  | .named name, site, v => follow name (site.keyword "$ref") v

/-- The violations at the properties that a schema knows, in the order of the schema. -/
def knownViolations (follow : Follow) :
    List (String × Schema) → Site → Json.Fields → List Violation
  | [], _, _ => []
  | (name, schema) :: rest, site, fields =>
    (match fields.get? name with
      | some v => violations follow schema ((site.keyword name).part name) v
      | none => [])
    ++ knownViolations follow rest site fields

/-- The violations at one property, if the schema knows it. -/
def propertyViolations? (follow : Follow) :
    List (String × Schema) → Site → String → Json → Option (List Violation)
  | [], _, _, _ => none
  | (name, schema) :: rest, site, key, v =>
    if name = key then some (violations follow schema ((site.keyword name).part key) v)
    else propertyViolations? follow rest site key v

/-- How many of the schemas are met. -/
def metCount (follow : Follow) : List Schema → Site → Json → Nat
  | [], _, _ => 0
  | schema :: rest, site, v =>
    (if (violations follow schema site v).isEmpty then 1 else 0) + metCount follow rest site v

end

/-- How deep lists and objects are nested in a value. -/
def Root.depth : Json → Nat := nesting
where
  /-- The depth of one value. -/
  nesting : Json → Nat
    | .arr items => 1 + itemsNesting items
    | .obj fields => 1 + fieldsNesting fields
    | _ => 0
  /-- The greatest depth of items. -/
  itemsNesting : List Json → Nat
    | [] => 0
    | v :: rest => max (nesting v) (itemsNesting rest)
  /-- The greatest depth of members. -/
  fieldsNesting : List (String × Json) → Nat
    | [] => 0
    | (_, v) :: rest => max (nesting v) (fieldsNesting rest)

namespace Root

/-- The violations with at most so many names on a path. A name of no schema is met by everything. -/
def violationsWithin (root : Root) : Nat → Schema → Site → Json → List Violation
  | 0 => Schema.violations fun _ _ _ => []
  | names + 1 => Schema.violations fun name site v =>
    match root.library.find? (·.1 == name) with
    | some entry => violationsWithin root names entry.2 site v
    | none => []

/-- The violations of a schema by a whole value. Between two steps into the value no name is followed
twice, so a path has at most as many names for each step as the library. -/
def violations (root : Root) (v : Json) : List Violation :=
  violationsWithin root ((depth v + 2) * (root.library.length + 1)) root.schema ⟨[], []⟩ v

end Root

end ProfileBindings.Schema
