import Mathlib.Data.List.Basic
import ProfileBindings.Schema.Validation

/-!
# What a schema means

A schema is a condition on values: the conjunction of its demands. Validation lists what breaks the
condition and where; nothing is listed exactly if the condition is met. This is so for every schema, given
that it is so for the schemas that are referred to by name.

* `Meets` : a value meets a schema, given what it is to meet a named schema;
* `MeetsDemand` : it meets a demand; a demand that does not concern its kind is met.

Main statements:
* `violations_eq_nil_iff` : one schema;
* `violationsWithin_eq_nil_iff` : a schema with those that it refers to.
-/

namespace ProfileBindings.Schema

/-- What it is to meet a named schema. -/
abbrev Naming := String → Json → Prop

mutual

/-- A value meets a schema. -/
def Meets (named : Naming) : Schema → Json → Prop
  | .always allowed, _ => allowed = true
  | .all demands, v => MeetsAll named demands v

/-- A value meets all of some demands. -/
def MeetsAll (named : Naming) : List Demand → Json → Prop
  | [], _ => True
  | d :: rest, v => MeetsDemand named d v ∧ MeetsAll named rest v

/-- A value meets a demand. -/
def MeetsDemand (named : Naming) : Demand → Json → Prop
  | .hasType types, v => ∃ t ∈ types, ValueType.covers t v = true
  | .required names, v => ∀ fields, v = .obj fields → ∀ name ∈ names, name ∈ Json.Fields.keys fields
  | .properties known, v => ∀ fields, v = .obj fields → MeetsProperties named known fields
  | .propertiesOr known other, v => ∀ fields, v = .obj fields →
    ∀ field ∈ fields, MeetsKnown named known field.1 field.2 (Meets named other field.2)
  | .onlyProperties known, v => ∀ fields, v = .obj fields →
    ∀ field ∈ fields, MeetsKnown named known field.1 field.2 False
  | .noProperties, v => ∀ fields, v = .obj fields → fields = []
  | .minProperties least, v => ∀ fields, v = .obj fields → least ≤ fields.length
  | .propertyNames schema, v => ∀ fields, v = .obj fields →
    ∀ name ∈ Json.Fields.keys fields, Meets named schema (.str name)
  | .noPropertyNames, v => ∀ fields, v = .obj fields → fields = []
  | .pattern _ p, v => ∀ s, v = .str s → p.occursIn s = true
  | .minLength least, v => ∀ s, v = .str s → least ≤ s.length
  | .items schema, v => ∀ items, v = .arr items → ∀ item ∈ items, Meets named schema item
  | .minItems least, v => ∀ items, v = .arr items → least ≤ items.length
  | .uniqueItems, v => ∀ items, v = .arr items → Json.allDistinct items = true
  | .oneOf choices, v => MeetsOne named choices v
  | .named name, v => named name v

/-- The members of an object meet the schemas of their names. -/
def MeetsProperties (named : Naming) : List (String × Schema) → Json.Fields → Prop
  | [], _ => True
  | (name, schema) :: rest, fields =>
    (∀ v, fields.get? name = some v → Meets named schema v) ∧ MeetsProperties named rest fields

/-- A member meets the schema of its name. If there is none for this name, something else has to hold. -/
def MeetsKnown (named : Naming) : List (String × Schema) → String → Json → Prop → Prop
  | [], _, _, otherwise => otherwise
  | (name, schema) :: rest, key, v, otherwise =>
    if name = key then Meets named schema v else MeetsKnown named rest key v otherwise

/-- A value meets none of some schemas. -/
def MeetsNone (named : Naming) : List Schema → Json → Prop
  | [], _ => True
  | schema :: rest, v => ¬Meets named schema v ∧ MeetsNone named rest v

/-- A value meets exactly one of some schemas. -/
def MeetsOne (named : Naming) : List Schema → Json → Prop
  | [], _ => False
  | schema :: rest, v =>
    (Meets named schema v ∧ MeetsNone named rest v) ∨ (¬Meets named schema v ∧ MeetsOne named rest v)

end

/-! ## Validation -/

section Validation

variable {follow : Follow} {named : Naming}

/-- A list of violations that is there only if a condition fails. -/
theorem ite_eq_nil_iff {c : Prop} [Decidable c] {violation : Violation} :
    (if c then [] else [violation]) = [] ↔ c := by
  split <;> simp [*]

theorem propertyViolations?_eq_none_iff {known : List (String × Schema)} {site : Site} {key : String}
    {v : Json} : propertyViolations? follow known site key v = none ↔ key ∉ known.map Prod.fst := by
  induction known with
  | nil => simp [propertyViolations?]
  | cons entry rest ih =>
    obtain ⟨name, schema⟩ := entry
    by_cases hname : name = key
    · simp [propertyViolations?, hname]
    · have hname' : key ≠ name := fun h => hname h.symm
      simp [propertyViolations?, hname, hname', ih]

mutual

/-- A value has no violations of a schema exactly if it meets the schema. -/
theorem violations_eq_nil_iff (hnamed : ∀ name site v, follow name site v = [] ↔ named name v) :
    ∀ (schema : Schema) (site : Site) (v : Json),
      violations follow schema site v = [] ↔ Meets named schema v
  | .always true, _, _ => by simp [violations, Meets]
  | .always false, _, _ => by simp [violations, Meets]
  | .all demands, site, v => by
    rw [violations, Meets]
    exact demandsViolations_eq_nil_iff hnamed demands site v

theorem demandsViolations_eq_nil_iff (hnamed : ∀ name site v, follow name site v = [] ↔ named name v) :
    ∀ (demands : List Demand) (site : Site) (v : Json),
      demandsViolations follow demands site v = [] ↔ MeetsAll named demands v
  | [], _, _ => by simp [demandsViolations, MeetsAll]
  | d :: rest, site, v => by
    rw [demandsViolations, MeetsAll, List.append_eq_nil_iff, demandViolations_eq_nil_iff hnamed d,
      demandsViolations_eq_nil_iff hnamed rest]

theorem demandViolations_eq_nil_iff (hnamed : ∀ name site v, follow name site v = [] ↔ named name v) :
    ∀ (d : Demand) (site : Site) (v : Json),
      demandViolations follow d site v = [] ↔ MeetsDemand named d v
  | .hasType types, site, v => by
    rw [demandViolations, ite_eq_nil_iff, MeetsDemand, List.any_eq_true]
  | .required names, site, v => by
    cases v <;> simp [demandViolations, MeetsDemand, List.filter_eq_nil_iff]
  | .properties known, site, v => by
    have ih := knownViolations_eq_nil_iff hnamed known
    cases v <;> simp [demandViolations, MeetsDemand, ih]
  | .propertiesOr known other, site, v => by
    have ihknown := propertyViolations?_iff hnamed known
    have ihother := violations_eq_nil_iff hnamed other
    cases v with
    | obj fields =>
      simp only [demandViolations, MeetsDemand, Json.obj.injEq, forall_eq', List.flatMap_eq_nil_iff]
      refine forall₂_congr fun field _ => ?_
      rw [← ihknown (site.keyword "properties"),
        ← ihother ((site.keyword "additionalProperties").part field.1)]
      cases propertyViolations? follow known (site.keyword "properties") field.1 field.2 <;> simp
    | _ => simp [demandViolations, MeetsDemand]
  | .onlyProperties known, site, v => by
    have ihknown := propertyViolations?_iff hnamed known
    cases v with
    | obj fields =>
      have hothers : (Json.Fields.keys fields).filter (fun name => !(known.map Prod.fst).contains name) = []
          ↔ ∀ field ∈ fields, field.1 ∈ known.map Prod.fst := by
        simp [List.filter_eq_nil_iff, Json.Fields.keys]
      simp only [demandViolations, MeetsDemand, Json.obj.injEq, forall_eq', List.append_eq_nil_iff,
        List.flatMap_eq_nil_iff, List.isEmpty_iff, ite_eq_nil_iff, hothers, ← forall₂_and]
      refine forall₂_congr fun field _ => ?_
      rw [← ihknown (site.keyword "properties")]
      -- A member is unexpected exactly if no schema of a name is found for it.
      have hunexpected : propertyViolations? follow known (site.keyword "properties") field.1 field.2 = none
          ↔ field.1 ∉ known.map Prod.fst := propertyViolations?_eq_none_iff
      cases hfound : propertyViolations? follow known (site.keyword "properties") field.1 field.2 with
      | none => simp [hunexpected.mp hfound]
      | some found =>
        have hmem : field.1 ∈ known.map Prod.fst := by
          by_contra hnot
          rw [hunexpected.mpr hnot] at hfound
          contradiction
        simp [hmem]
    | _ => simp [demandViolations, MeetsDemand]
  | .noProperties, site, v => by
    cases v with
    | obj fields => cases fields <;> simp [demandViolations, MeetsDemand]
    | _ => simp [demandViolations, MeetsDemand]
  | .minProperties least, site, v => by
    cases v <;> simp [demandViolations, MeetsDemand]
  | .propertyNames schema, site, v => by
    have ih := violations_eq_nil_iff hnamed schema
    cases v <;> simp [demandViolations, MeetsDemand, ih, Json.Fields.keys]
  | .noPropertyNames, site, v => by
    cases v with
    | obj fields => cases fields <;> simp [demandViolations, MeetsDemand]
    | _ => simp [demandViolations, MeetsDemand]
  | .pattern written p, site, v => by
    cases v <;> simp [demandViolations, MeetsDemand]
  | .minLength least, site, v => by
    cases v <;> simp [demandViolations, MeetsDemand]
  | .items schema, site, v => by
    have ih := violations_eq_nil_iff hnamed schema
    cases v with
    | arr items =>
      have hitems : (∀ item ∈ items.zipIdx, Meets named schema item.1) ↔
          ∀ item ∈ items, Meets named schema item := by
        conv_rhs => rw [← List.zipIdx_map_fst 0 items]
        rw [List.forall_mem_map]
      simp only [demandViolations, MeetsDemand, Json.arr.injEq, forall_eq', List.flatMap_eq_nil_iff, ih,
        hitems]
    | _ => simp [demandViolations, MeetsDemand]
  | .minItems least, site, v => by
    cases v <;> simp [demandViolations, MeetsDemand]
  | .uniqueItems, site, v => by
    cases v <;> simp [demandViolations, MeetsDemand]
  | .oneOf choices, site, v => by
    rw [demandViolations, MeetsDemand, ← (metCount_iff hnamed choices site v).2]
    split <;> simp_all
  | .named name, site, v => by
    rw [demandViolations, MeetsDemand]
    exact hnamed name _ v

theorem knownViolations_eq_nil_iff (hnamed : ∀ name site v, follow name site v = [] ↔ named name v) :
    ∀ (known : List (String × Schema)) (site : Site) (fields : Json.Fields),
      knownViolations follow known site fields = [] ↔ MeetsProperties named known fields
  | [], _, _ => by simp [knownViolations, MeetsProperties]
  | (name, schema) :: rest, site, fields => by
    rw [knownViolations, MeetsProperties, List.append_eq_nil_iff,
      knownViolations_eq_nil_iff hnamed rest]
    have ih := violations_eq_nil_iff hnamed schema
    cases fields.get? name with
    | none => simp
    | some v => simp [ih]

theorem propertyViolations?_iff (hnamed : ∀ name site v, follow name site v = [] ↔ named name v) :
    ∀ (known : List (String × Schema)) (site : Site) (key : String) (v : Json) (otherwise : Prop),
      ((propertyViolations? follow known site key v).elim otherwise (· = [])) ↔
        MeetsKnown named known key v otherwise
  | [], _, _, _, _ => by simp [propertyViolations?, MeetsKnown]
  | (name, schema) :: rest, site, key, v, otherwise => by
    rw [propertyViolations?, MeetsKnown]
    by_cases hname : name = key
    · simpa [hname] using violations_eq_nil_iff hnamed schema _ v
    · simpa [hname] using propertyViolations?_iff hnamed rest site key v otherwise

theorem metCount_iff (hnamed : ∀ name site v, follow name site v = [] ↔ named name v) :
    ∀ (choices : List Schema) (site : Site) (v : Json),
      (metCount follow choices site v = 0 ↔ MeetsNone named choices v) ∧
        (metCount follow choices site v = 1 ↔ MeetsOne named choices v)
  | [], _, _ => by simp [metCount, MeetsNone, MeetsOne]
  | schema :: rest, site, v => by
    have ih := violations_eq_nil_iff hnamed schema site v
    obtain ⟨hnone, hone⟩ := metCount_iff hnamed rest site v
    rw [metCount, MeetsNone, MeetsOne, ← hnone, ← hone, ← ih, ← List.isEmpty_iff]
    split <;> simp_all

end

end Validation

/-! ## Schemas that refer to others by name -/

/-- What it is to meet a named schema, with at most so many further names on a path. -/
def Root.meetsWithin (root : Root) : Nat → Naming
  | 0, _, _ => True
  | names + 1, name, v =>
    ∀ entry, root.library.find? (·.1 == name) = some entry → Meets (root.meetsWithin names) entry.2 v

theorem violationsWithin_eq_nil_iff (root : Root) (names : Nat) (schema : Schema) (site : Site) (v : Json) :
    root.violationsWithin names schema site v = [] ↔ Meets (root.meetsWithin names) schema v := by
  induction names generalizing schema site v with
  | zero => exact violations_eq_nil_iff (by simp [Root.meetsWithin]) schema site v
  | succ names ih =>
    refine violations_eq_nil_iff (fun name site v => ?_) schema site v
    rw [Root.meetsWithin]
    cases root.library.find? (·.1 == name) with
    | none => simp
    | some entry => simpa using ih entry.2 site v

end ProfileBindings.Schema
