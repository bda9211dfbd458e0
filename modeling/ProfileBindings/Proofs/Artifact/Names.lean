import ProfileBindings.Proofs.Artifact.Declared

/-!
# The names of the table and of the name functions

What stands in the table is told by the component, what has a name by the names of the document, and which of
the two directions an enumerator belongs to by its beginning. In a document without errors the three agree.

* `Table.operands` : the enumerators of one direction in the table;
* `Config.extras` : the enumerators of one direction that have names although no component is bound to them.

Main statement: `names_agree`.
-/

namespace ProfileBindings

/-- The enumerators of one direction that have names although no component is bound to them. -/
def Config.extras (config : Config) : Direction → List String
  | .input => config.extraInputs
  | .output => []

theorem EnumeratorNames.mem_of_iff {config : Config} {d : Document} {direction : Direction} {name : String} :
    name ∈ ((ofDocument d config.extraInputs).of direction).toList ↔
      Binds d direction name ∨ name ∈ config.extras direction := by
  cases direction with
  | input => exact mem_inputs
  | output =>
    rw [of, mem_outputs]
    simp [Config.extras]

namespace Artifact

open C Check

/-! ## Operands of the table -/

/-- What stands for the enumerator of a binding in one direction. -/
def BindingRow.operand (direction : Direction) (row : BindingRow) : Expr :=
  match direction with
  | .input => row.input
  | .output => row.output

/-- What stands for enumerators of one direction in the table. A zero stands for none. -/
def Table.operands (direction : Direction) (t : Table) : List Expr :=
  (t.rows.flatMap fun row => row.bindings.map (·.operand direction)).filter (· ≠ .constant 0)

theorem operand_ofComponent (direction : Direction) (c : Component) :
    (BindingRow.ofComponent c).operand direction = BindingRow.operandOf direction c := by
  cases direction with
  | input => rfl
  | output => rfl

/-- What does not stand for zero is a name. -/
theorem operandOf_cases (direction : Direction) (c : Component) :
    BindingRow.operandOf direction c = .constant 0 ∨
      ∃ name, BindingRow.operandOf direction c = .name name := by
  unfold BindingRow.operandOf
  cases c.binding with
  | undeclared => exact Or.inl rfl
  | unbound => exact Or.inl rfl
  | bound name =>
    by_cases hdirection : c.direction = direction
    · exact Or.inr ⟨name, if_pos hdirection⟩
    · exact Or.inl (if_neg hdirection)

/-- The table holds the enumerators that components are bound to, each in the direction of its component, and
nothing else but zeros. -/
theorem mem_operands_iff {d : Document} {table : Table} {direction : Direction} {e : Expr}
    (hrows : table.rows = d.profiles.map ProfileRow.ofProfile) :
    e ∈ table.operands direction ↔ ∃ name, EnumeratorNames.Binds d direction name ∧ e = .name name := by
  have hmem : e ∈ table.operands direction ↔
      (∃ p ∈ d.profiles, ∃ c ∈ p.expand, BindingRow.operandOf direction c = e) ∧ e ≠ .constant 0 := by
    simp [Table.operands, hrows, ProfileRow.ofProfile, operand_ofComponent]
  rw [hmem]
  constructor
  · rintro ⟨⟨p, hp, c, hc, rfl⟩, hzero⟩
    obtain ⟨name, hname⟩ := (operandOf_cases direction c).resolve_left hzero
    obtain ⟨hdirection, hbound⟩ := operandOf_eq_name_iff.mp hname
    exact ⟨name, ⟨p, hp, c, hc, hdirection, hbound⟩, hname⟩
  · rintro ⟨name, ⟨p, hp, c, hc, hdirection, hbound⟩, rfl⟩
    exact ⟨⟨p, hp, c, hc, operandOf_eq_name_iff.mpr ⟨hdirection, hbound⟩⟩, by simp⟩

/-! ## The text -/

variable {config : Config} {d : Document} {text : String}

/-- A name of a sound document is an identifier with the beginning of its direction, and it is a name of that
direction only. -/
theorem direction_of_mem (hc : config.Valid) (hd : SoundDocument config.pathsPerTemplate d)
    {direction : Direction} {name : String}
    (hname : name ∈ ((EnumeratorNames.ofDocument d config.extraInputs).of direction).toList) :
    Text.isIdentifier name = true ∧ Text.hasPrefix direction.enumeratorStart name = true ∧
      ∀ other, name ∈ ((EnumeratorNames.ofDocument d config.extraInputs).of other).toList →
        other = direction := by
  have henumerator := EnumeratorNames.isEnumeratorOf_of_mem hc hd hname
  obtain ⟨hidentifier, hprefix⟩ := Config.isEnumeratorOf_iff.mp henumerator
  refine ⟨hidentifier, hprefix, fun other hother => ?_⟩
  -- Either beginning tells the direction, and a name has only one.
  have hdirection := Direction.ofEnumerator?_of_isEnumeratorOf henumerator
  have hdirection' := Direction.ofEnumerator?_of_isEnumeratorOf
    (EnumeratorNames.isEnumeratorOf_of_mem hc hd hother)
  exact Option.some.inj (hdirection'.symm.trans hdirection)

/-- In either direction, the enumerators in the table are, together with the extra ones, the enumerators that
have names: the names of the document are the labels of the function that gives names. Each is an identifier
with the beginning of its direction, and no enumerator belongs to both. -/
theorem names_agree (hrender : render .source config d = .ok text)
    (herrors : hasErrors (issues d config.pathsPerTemplate) = false) :
    ∃ table, table? text = some table ∧ ∀ direction, ∃ toName labels,
      functionsNamed text (stringName direction) = [toName] ∧ toName.caseLabels? = some [labels] ∧
      labels = ((EnumeratorNames.ofDocument d config.extraInputs).of direction).toList.map .name ∧
      (∀ e, e ∈ table.operands direction ∨ e ∈ (config.extras direction).map .name ↔ e ∈ labels) ∧
      ∀ name ∈ ((EnumeratorNames.ofDocument d config.extraInputs).of direction).toList,
        Text.isIdentifier name = true ∧ Text.hasPrefix direction.enumeratorStart name = true ∧
          ∀ other, name ∈ ((EnumeratorNames.ofDocument d config.extraInputs).of other).toList →
            other = direction := by
  obtain ⟨hc, hd, -⟩ := sound_of_render hrender herrors
  refine ⟨_, table?_of_render hrender herrors, fun direction => ?_⟩
  refine ⟨(NameFunctions.ofDocument config d direction).stringFunction, _,
    functionsNamed_of_render hrender herrors (stringFunction_mem_functions config d direction),
    NameFunctions.caseLabels?_stringFunction _, rfl, fun e => ?_, fun name => direction_of_mem hc hd⟩
  rw [mem_operands_iff rfl, List.mem_map, List.mem_map]
  constructor
  · rintro (⟨name, hbinds, rfl⟩ | ⟨name, hextra, rfl⟩)
    · exact ⟨name, EnumeratorNames.mem_of_iff.mpr (Or.inl hbinds), rfl⟩
    · exact ⟨name, EnumeratorNames.mem_of_iff.mpr (Or.inr hextra), rfl⟩
  · rintro ⟨name, hname, rfl⟩
    rcases EnumeratorNames.mem_of_iff.mp hname with hbinds | hextra
    · exact Or.inl ⟨name, hbinds, rfl⟩
    · exact Or.inr ⟨name, hextra, rfl⟩

/-- The motor of the small document is the only output, in the table and by its label. -/
theorem names_simpleDocument :
    ∃ table toName, table? (Source.assemble .standard simpleDocument).print = some table ∧
      functionsNamed (Source.assemble .standard simpleDocument).print "xrt_output_name_string" = [toName] ∧
      toName.caseLabels? = some [[.name "XRT_OUTPUT_NAME_SIMPLE_VIBRATION"]] ∧
      ∀ e, e ∈ table.operands .output ↔ e = .name "XRT_OUTPUT_NAME_SIMPLE_VIBRATION" := by
  obtain ⟨table, htable, hagree⟩ := names_agree render_simpleDocument hasErrors_simpleDocument
  obtain ⟨toName, labels, hname, hlabels, rfl, hmem, -⟩ := hagree .output
  have hnames : ((EnumeratorNames.ofDocument simpleDocument Config.standard.extraInputs).of
      .output).toList = ["XRT_OUTPUT_NAME_SIMPLE_VIBRATION"] := by decide
  rw [hnames] at hlabels hmem
  exact ⟨table, toName, htable, hname, hlabels, fun e => by simpa [Config.extras] using hmem e⟩

end Artifact

end ProfileBindings
