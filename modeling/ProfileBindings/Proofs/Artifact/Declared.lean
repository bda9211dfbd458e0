import ProfileBindings.Proofs.Artifact.Meaning
import ProfileBindings.Proofs.Enumerator.Header

/-!
# Enumerators that the generated source uses

A header says which enumerators there are. A document is held against it before anything is generated, by
the enumerators that its components are bound to and by the extra inputs. The text uses these, and besides
them the fallbacks, which are held against nothing.

* `expressions?` : the expressions that a text uses as they stand;
* `Uses` : the text uses an enumerator of a direction.

Main statements:
* `uses_iff` : which enumerators the text uses;
* `uses_declared_iff` : whether they all are declared depends on the fallbacks.
-/

namespace ProfileBindings

open Check

/-! ## Directions of enumerators -/

theorem Direction.ofEnumerator?_of_isEnumeratorOf {direction : Direction} {name : String}
    (h : Config.isEnumeratorOf direction name = true) :
    Direction.ofEnumerator? name = some direction :=
  ofEnumerator?_eq_some_iff.mpr (Config.isEnumeratorOf_iff.mp h).2

namespace Artifact

open C

/-! ## Expressions -/

/-- What stands for the enumerators of the bindings. -/
def Table.expressions (t : Table) : List Expr :=
  t.rows.flatMap fun row => row.bindings.flatMap fun binding => [binding.input, binding.output]

/-- The expressions that a text uses as they stand: the labels and the returned values of its functions, and
the inputs and the outputs of its table. -/
def expressions? (text : String) : Option (List Expr) := do
  let ts ← trees? text
  let table ← table? text
  let fromFunctions ← (functionsIn ts).mapM Function.expressions?
  return fromFunctions.flatten ++ table.expressions

/-- The enumerator of a direction is among the expressions. -/
def Uses (es : List Expr) (direction : Direction) (name : String) : Prop :=
  .name name ∈ es ∧ Direction.ofEnumerator? name = some direction

theorem operandOf_eq_name_iff {direction : Direction} {c : Component} {name : String} :
    BindingRow.operandOf direction c = .name name ↔ c.direction = direction ∧ c.binding = .bound name := by
  unfold BindingRow.operandOf
  cases c.binding with
  | undeclared => simp
  | unbound => simp
  | bound other =>
    by_cases hdirection : c.direction = direction
    · simp [hdirection]
    · simp [hdirection]

/-- The table uses the enumerators that components are bound to. -/
theorem name_mem_expressions_iff {d : Document} {table : Table} {name : String}
    (hrows : table.rows = d.profiles.map ProfileRow.ofProfile) :
    .name name ∈ table.expressions ↔ ∃ direction, EnumeratorNames.Binds d direction name := by
  have hmem : .name name ∈ table.expressions ↔ ∃ p ∈ d.profiles, ∃ c ∈ p.expand,
      BindingRow.operandOf .input c = .name name ∨ BindingRow.operandOf .output c = .name name := by
    simp [Table.expressions, hrows, ProfileRow.ofProfile, BindingRow.ofComponent, List.flatMap_map,
      eq_comm (a := Expr.name name)]
  rw [hmem]
  constructor
  · rintro ⟨p, hp, c, hc, hinput | houtput⟩
    · exact ⟨.input, p, hp, c, hc, operandOf_eq_name_iff.mp hinput⟩
    · exact ⟨.output, p, hp, c, hc, operandOf_eq_name_iff.mp houtput⟩
  · rintro ⟨direction, p, hp, c, hc, hbound⟩
    refine ⟨p, hp, c, hc, ?_⟩
    cases direction with
    | input => exact Or.inl (operandOf_eq_name_iff.mpr hbound)
    | output => exact Or.inr (operandOf_eq_name_iff.mpr hbound)

/-! ## The text -/

variable {config : Config} {d : Document} {text : String}

/-- The expressions of the functions of a document. -/
def functionExpressions (config : Config) (d : Document) : List Expr :=
  d.profiles.flatMap (fun p => (VerifyFunction.ofProfile config p).expressions)
    ++ (NameFunctions.ofDocument config d .input).expressions
    ++ (NameFunctions.ofDocument config d .output).expressions

theorem mapM_functions (config : Config) (d : Document) :
    ((Source.assemble config d).functions.mapM Function.expressions?).map List.flatten
      = some (functionExpressions config d) := by
  have hverify : (((Source.assemble config d).verifyFunctions.map VerifyFunction.function).mapM
      Function.expressions?) = some ((Source.assemble config d).verifyFunctions.map
        VerifyFunction.expressions) := by
    rw [List.mapM_map]
    exact mapM_eq_some_map fun f _ => f.expressions?_function
  rw [Source.functions, List.mapM_append, hverify]
  simp [NameFunctions.expressions?_stringFunction, NameFunctions.expressions?_enumFunction,
    functionExpressions, NameFunctions.expressions, Source.assemble, NameFunctions.ofDocument,
    EnumeratorNames.of, Config.fallback, List.flatMap_def, Function.comp_def]

/-- The functions use the names of the document, and the fallbacks. -/
theorem name_mem_functionExpressions_iff {direction : Direction} {name : String}
    (hdirection : Direction.ofEnumerator? name = some direction) :
    .name name ∈ functionExpressions config d ↔
      ∃ other, name ∈ ((EnumeratorNames.ofDocument d config.extraInputs).of other).toList ∨
        name = config.fallback other := by
  -- A verify function uses truth values only, and these are no enumerators.
  have hverify : .name name ∉
      d.profiles.flatMap fun p => (VerifyFunction.ofProfile config p).expressions := by
    intro hmem
    obtain ⟨p, -, hp⟩ := List.mem_flatMap.mp hmem
    rcases VerifyFunction.eq_of_mem_expressions hp with rfl | rfl
    · exact absurd hdirection (by cases direction <;> decide)
    · exact absurd hdirection (by cases direction <;> decide)
  rw [functionExpressions, List.mem_append, List.mem_append, or_iff_right hverify,
    NameFunctions.name_mem_expressions_iff, NameFunctions.name_mem_expressions_iff]
  constructor
  · rintro (h | h)
    · exact ⟨.input, h⟩
    · exact ⟨.output, h⟩
  · rintro ⟨other, h⟩
    cases other with
    | input => exact Or.inl h
    | output => exact Or.inr h

theorem expressions?_of_render (hrender : render .source config d = .ok text)
    (herrors : hasErrors (issues d config.pathsPerTemplate) = false) :
    expressions? text = some (functionExpressions config d
      ++ Table.expressions ⟨d.profiles.length, d.profiles.map ProfileRow.ofProfile⟩) := by
  have htable := table?_of_render hrender herrors
  obtain ⟨hc, hd, rfl⟩ := sound_of_render hrender herrors
  obtain ⟨ts, hts, hfunctions⟩ :=
    Option.map_eq_some_iff.mp (Source.functionsIn_print (Source.clean_assemble hc hd))
  obtain ⟨parts, hparts, hflat⟩ := Option.map_eq_some_iff.mp (mapM_functions config d)
  rw [← hfunctions] at hparts
  simp [expressions?, hts, htable, hparts, hflat]

/-- The text uses the enumerators of the document and the extra inputs, the fallbacks, and no others. -/
theorem uses_iff (hrender : render .source config d = .ok text)
    (herrors : hasErrors (issues d config.pathsPerTemplate) = false) :
    ∃ es, expressions? text = some es ∧ ∀ direction name, Uses es direction name ↔
      name ∈ ((EnumeratorNames.ofDocument d config.extraInputs).of direction).toList ∨
        name = config.fallback direction := by
  refine ⟨_, expressions?_of_render hrender herrors, fun direction name => ?_⟩
  obtain ⟨hc, hd, -⟩ := sound_of_render hrender herrors
  have hbelongs : ∀ other, (name ∈ ((EnumeratorNames.ofDocument d config.extraInputs).of other).toList ∨
      name = config.fallback other) → Direction.ofEnumerator? name = some other := by
    rintro other (hname | rfl)
    · exact Direction.ofEnumerator?_of_isEnumeratorOf (EnumeratorNames.isEnumeratorOf_of_mem hc hd hname)
    · exact Direction.ofEnumerator?_of_isEnumeratorOf (hc.fallback other)
  constructor
  · rintro ⟨hmem, hdirection⟩
    -- Wherever it is used, it belongs to some direction, and an enumerator has only one.
    have hsome : ∃ other, name ∈ ((EnumeratorNames.ofDocument d config.extraInputs).of other).toList ∨
        name = config.fallback other := by
      rcases List.mem_append.mp hmem with hfunction | htable
      · exact (name_mem_functionExpressions_iff hdirection).mp hfunction
      · obtain ⟨other, hbinds⟩ := (name_mem_expressions_iff rfl).mp htable
        exact ⟨other, Or.inl (EnumeratorNames.mem_of_binds hbinds config.extraInputs)⟩
    obtain ⟨other, hother⟩ := hsome
    have hsame : other = direction :=
      Option.some.inj ((hbelongs other hother).symm.trans hdirection)
    exact hsame ▸ hother
  · intro h
    have hdirection := hbelongs direction h
    exact ⟨List.mem_append_left _ ((name_mem_functionExpressions_iff hdirection).mpr ⟨direction, h⟩),
      hdirection⟩

/-- Where all names of a document are declared, everything that the text uses is declared except for the
fallbacks. So it is all declared exactly if the fallbacks are. -/
theorem uses_declared_iff (hrender : render .source config d = .ok text)
    (herrors : hasErrors (issues d config.pathsPerTemplate) = false) {header : String}
    (hknown : Header.unknown (Header.declared header)
      (EnumeratorNames.ofDocument d config.extraInputs) = []) :
    ∃ es, expressions? text = some es ∧
      (∀ direction name, Uses es direction name → name ≠ config.fallback direction →
        (Header.declared header).contains direction name = true) ∧
      ((∀ direction name, Uses es direction name →
          (Header.declared header).contains direction name = true) ↔
        ∀ direction, (Header.declared header).contains direction (config.fallback direction) = true) := by
  obtain ⟨es, hes, huses⟩ := uses_iff hrender herrors
  have hothers : ∀ direction name, Uses es direction name → name ≠ config.fallback direction →
      (Header.declared header).contains direction name = true := by
    intro direction name hused hne
    have hname := ((huses direction name).mp hused).resolve_right hne
    exact Header.unknown_eq_nil_iff.mp hknown direction name hname
  refine ⟨es, hes, hothers, ?_, ?_⟩
  · intro hall direction
    exact hall direction _ ((huses direction _).mpr (Or.inr rfl))
  · intro hfallbacks direction name hused
    by_cases hname : name = config.fallback direction
    · exact hname ▸ hfallbacks direction
    · exact hothers direction name hused hname

/-! ## A small header -/

/-- A header that declares what the small document and the standard configuration name. -/
def simpleHeader : String :=
  "enum xrt_input_name \x7b XRT_INPUT_SIMPLE_SELECT_CLICK, XRT_INPUT_GENERIC_HEAD_POSE,
  XRT_INPUT_GENERIC_HEAD_DETECT, XRT_INPUT_GENERIC_HAND_TRACKING_LEFT,
  XRT_INPUT_GENERIC_HAND_TRACKING_RIGHT, XRT_INPUT_GENERIC_TRACKER_POSE \x7d;
  enum xrt_output_name \x7b XRT_OUTPUT_NAME_SIMPLE_VIBRATION \x7d;"

/-- The enumerators of the small header. -/
def simpleEnumerators : List String := [
  "XRT_INPUT_SIMPLE_SELECT_CLICK", "XRT_INPUT_GENERIC_HEAD_POSE", "XRT_INPUT_GENERIC_HEAD_DETECT",
  "XRT_INPUT_GENERIC_HAND_TRACKING_LEFT", "XRT_INPUT_GENERIC_HAND_TRACKING_RIGHT",
  "XRT_INPUT_GENERIC_TRACKER_POSE", "XRT_OUTPUT_NAME_SIMPLE_VIBRATION"]

set_option maxRecDepth 2000 in
theorem words_simpleHeader :
    (Header.words (Header.code simpleHeader)).filter (fun word => (Direction.ofEnumerator? word).isSome)
      = simpleEnumerators := by
  rw [Header.code, simpleHeader, String.toList_ofList]
  decide +kernel

theorem contains_simpleHeader_iff {direction : Direction} {name : String} :
    (Header.declared simpleHeader).contains direction name = true ↔
      name ∈ simpleEnumerators ∧ Direction.ofEnumerator? name = some direction := by
  rw [Header.contains_declared_iff, ← words_simpleHeader, List.mem_filter]
  constructor
  · rintro ⟨hword, hdirection⟩
    exact ⟨⟨hword, by rw [hdirection]; rfl⟩, hdirection⟩
  · rintro ⟨⟨hword, -⟩, hdirection⟩
    exact ⟨hword, hdirection⟩

theorem unknown_simpleDocument : Header.unknown (Header.declared simpleHeader)
    (EnumeratorNames.ofDocument simpleDocument Config.standard.extraInputs) = [] := by
  rw [Header.unknown_eq_nil_iff]
  intro direction name hname
  rw [contains_simpleHeader_iff]
  revert name
  cases direction <;> decide

/-- What the text of the small document uses is declared by the small header. -/
theorem uses_declared_simpleDocument :
    ∃ es, expressions? (Source.assemble .standard simpleDocument).print = some es ∧
      ∀ direction name, Uses es direction name →
        (Header.declared simpleHeader).contains direction name = true := by
  obtain ⟨es, hes, -, hall⟩ := uses_declared_iff render_simpleDocument hasErrors_simpleDocument
    unknown_simpleDocument
  refine ⟨es, hes, hall.mpr fun direction => contains_simpleHeader_iff.mpr ?_⟩
  cases direction <;> decide

/-- The standard configuration with another fallback for outputs, which the small header lacks. -/
def otherFallback : Config := { Config.standard with outputFallback := "XRT_OUTPUT_NAME_VIBRATION" }

/-- Nothing is unknown, and still the text uses a fallback that the header does not declare. -/
theorem undeclared_fallback_is_used :
    ∃ text es, render .source otherFallback simpleDocument = .ok text ∧
      hasErrors (issues simpleDocument otherFallback.pathsPerTemplate) = false ∧
      Header.unknown (Header.declared simpleHeader)
        (EnumeratorNames.ofDocument simpleDocument otherFallback.extraInputs) = [] ∧
      expressions? text = some es ∧ Uses es .output "XRT_OUTPUT_NAME_VIBRATION" ∧
      (Header.declared simpleHeader).contains .output "XRT_OUTPUT_NAME_VIBRATION" = false := by
  have hvalid : otherFallback.Valid := Config.fault?_eq_none_iff.mp rfl
  have hrender := render_source_of_sound hvalid (hasErrors_eq_false_iff.mp hasErrors_simpleDocument)
    (by simp [simpleDocument])
  obtain ⟨es, hes, huses⟩ := uses_iff hrender hasErrors_simpleDocument
  have hundeclared : (Header.declared simpleHeader).contains .output "XRT_OUTPUT_NAME_VIBRATION" = false := by
    rw [Bool.eq_false_iff]
    intro hcontains
    exact absurd (contains_simpleHeader_iff.mp hcontains).1 (by decide)
  exact ⟨_, es, hrender, hasErrors_simpleDocument, unknown_simpleDocument, hes,
    (huses _ _).mpr (Or.inr rfl), hundeclared⟩

end Artifact

end ProfileBindings
