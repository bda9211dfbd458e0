import ProfileBindings.Proofs.Artifact.ProfileTable

/-!
# The rows of the printed table

Main statements:
* `read?_componentTrees`, `read?_profileTrees` : an entry is read as the row of its component or profile;
* `ProfileTable.read?_definition` : the table is read as the rows of the profiles.
-/

namespace ProfileBindings.Artifact

open C

theorem text?_literal (s : String) : text? (literal s) = some (Text.utf8 s) := Literal.decode_escape s

theorem isMark_literal {s : String} : ∀ t ∈ literal s, t.isMark "," = false := by
  simp [literal, Tree.isMark]

theorem pointers?_pathTrees (paths : List String) :
    pointers? [.group .curly (ComponentEntry.pathTrees paths)]
      = some (paths.map (fun path => some (Text.utf8 path)) ++ [none]) := by
  unfold pointers?
  refine Option.bind_eq_some_iff.mpr ⟨ComponentEntry.pathTrees paths, rfl, ?_⟩
  have hpaths : (paths.map literal).mapM pointer? = some (paths.map fun path => some (Text.utf8 path)) := by
    rw [List.mapM_map]
    exact mapM_eq_some_map fun path _ => by simp [pointer?, literal, text?, Literal.decode_escape]
  -- `NULL` is the last element, without a comma behind it.
  rw [ComponentEntry.pathTrees, elements_flatMap_append (fun _ _ => isMark_literal)
    (by simp [Tree.isMark]) (by simp), List.mapM_append, hpaths]
  rfl

/-! ## Components -/

theorem fields?_component (e : ComponentEntry) : fields? (recordTrees e.fields) = some e.fields := by
  have hoperand : ∀ operand : Operand, operand.tree.isMark "," = false := by
    intro operand
    cases operand <;> rfl
  apply fields?_recordTrees
  unfold ComponentEntry.fields
  rw [List.forall_mem_append]
  refine ⟨by simp [literal, Tree.isMark], ?_⟩
  cases e.operands <;> simp [ComponentEntry.operandFields, hoperand]

/-- The expression of an operand. -/
def Operand.expr : Operand → Expr
  | zero => .constant 0
  | enumerator name => .name name

theorem read?_operand (operand : Operand) : Expr.read? [operand.tree] = some operand.expr := by
  cases operand with
  | zero =>
    have hzero : constant? ['0'] = some 0 := rfl
    simp [Operand.tree, Operand.expr, Expr.read?, upToMark?, Tree.isMark, Expr.operand?, Expr.atom?,
      hzero]
  | enumerator name => rfl

/-- The operands of a component: without an entry they are zero, like with an empty one. -/
theorem operand?_ofComponent (c : Component) :
    operand? (ComponentEntry.ofComponent c).fields "input" = some (BindingRow.operandOf .input c) ∧
      operand? (ComponentEntry.ofComponent c).fields "output"
        = some (BindingRow.operandOf .output c) := by
  unfold BindingRow.operandOf
  cases hbinding : c.binding with
  | undeclared =>
    simp [operand?, valueOf?, ComponentEntry.fields, ComponentEntry.ofComponent,
      ComponentEntry.operandsOf, ComponentEntry.operandFields, hbinding, List.lookup_cons]
  | unbound =>
    simp [operand?, valueOf?, ComponentEntry.fields, ComponentEntry.ofComponent,
      ComponentEntry.operandsOf, ComponentEntry.operandFields, hbinding, List.lookup_cons, read?_operand,
      Operand.expr]
  | bound name =>
    cases hdirection : c.direction <;>
      simp [operand?, valueOf?, ComponentEntry.fields, ComponentEntry.ofComponent,
        ComponentEntry.operandsOf, ComponentEntry.operandFields, hbinding, hdirection, List.lookup_cons,
        read?_operand, Operand.expr]

/-- The fields of an entry that do not depend on its operands. -/
theorem valueOf?_component (e : ComponentEntry) :
    valueOf? e.fields "subaction_path" = some (literal e.subaction) ∧
      valueOf? e.fields "steamvr_path" = some (literal e.steamvrPath) ∧
      valueOf? e.fields "localized_name" = some (literal e.localizedName) ∧
      valueOf? e.fields "paths" = some [.group .curly (ComponentEntry.pathTrees e.paths)] := by
  rcases e with ⟨subaction, steamvrPath, localizedName, paths, operands⟩
  cases operands <;>
    simp [valueOf?, ComponentEntry.fields, ComponentEntry.operandFields, List.lookup_cons]

theorem read?_componentTrees (c : Component) :
    BindingRow.read? (ComponentEntry.ofComponent c).trees = some (.ofComponent c) := by
  have hfields := fields?_component (ComponentEntry.ofComponent c)
  obtain ⟨hinput, houtput⟩ := operand?_ofComponent c
  obtain ⟨hsubaction, hsteamvr, hlocalized, hpaths⟩ := valueOf?_component (ComponentEntry.ofComponent c)
  have hbraces : braced? (ComponentEntry.ofComponent c).trees
      = some (recordTrees (ComponentEntry.ofComponent c).fields) := rfl
  -- The fields are read one after the other, each with what it is known to be.
  unfold BindingRow.read?
  refine Option.bind_eq_some_iff.mpr ⟨_, hbraces, ?_⟩
  refine Option.bind_eq_some_iff.mpr ⟨_, hfields, ?_⟩
  refine Option.bind_eq_some_iff.mpr ⟨_, fieldOf?_eq hsubaction (text?_literal _), ?_⟩
  refine Option.bind_eq_some_iff.mpr ⟨_, fieldOf?_eq hsteamvr (text?_literal _), ?_⟩
  refine Option.bind_eq_some_iff.mpr ⟨_, fieldOf?_eq hlocalized (text?_literal _), ?_⟩
  refine Option.bind_eq_some_iff.mpr ⟨_, fieldOf?_eq hpaths (pointers?_pathTrees _), ?_⟩
  refine Option.bind_eq_some_iff.mpr ⟨_, hinput, ?_⟩
  refine Option.bind_eq_some_iff.mpr ⟨_, houtput, ?_⟩
  rfl

/-! ## Profiles -/

theorem fields?_profile (e : ProfileEntry) : fields? (recordTrees e.fields) = some e.fields := by
  apply fields?_recordTrees
  simp [ProfileEntry.fields, literal, Tree.isMark]

theorem valueOf?_profile (e : ProfileEntry) :
    valueOf? e.fields "name" = some [.word e.device] ∧
      valueOf? e.fields "path" = some (literal e.path) ∧
      valueOf? e.fields "localized_name" = some (literal e.localizedName) ∧
      valueOf? e.fields "steamvr_input_profile_path" = some (literal e.steamvrInputProfilePath) ∧
      valueOf? e.fields "steamvr_controller_type" = some (literal e.steamvrControllerType) ∧
      valueOf? e.fields "binding_count" = some [.number (toString e.components.length)] ∧
      valueOf? e.fields "bindings" = some [
        .group .round [.word "struct", .word "binding_template", .group .square []],
        .group .curly e.componentTrees] := by
  simp [valueOf?, ProfileEntry.fields, List.lookup_cons]

theorem elements_componentTrees (p : Profile) :
    elements (ProfileEntry.assemble p).componentTrees
      = p.expand.map fun c => (ComponentEntry.ofComponent c).trees := by
  have hcomma : ∀ e ∈ (ProfileEntry.assemble p).components, ∀ t ∈ e.trees, t.isMark "," = false := by
    simp [ComponentEntry.trees, Tree.isMark]
  rw [ProfileEntry.componentTrees, elements_flatMap hcomma, ProfileEntry.assemble, List.map_map]
  rfl

theorem bindings?_componentTrees (p : Profile) :
    bindings? [.group .round [.word "struct", .word "binding_template", .group .square []],
      .group .curly (ProfileEntry.assemble p).componentTrees]
      = some (p.expand.map BindingRow.ofComponent) := by
  unfold bindings?
  refine Option.bind_eq_some_iff.mpr ⟨(ProfileEntry.assemble p).componentTrees, rfl, ?_⟩
  rw [elements_componentTrees, List.mapM_map]
  exact mapM_eq_some_map fun c _ => read?_componentTrees c

theorem read?_profileTrees (p : Profile) :
    ProfileRow.read? (ProfileEntry.assemble p).trees = some (.ofProfile p) := by
  obtain ⟨hname, hpath, hlocalized, hfile, htype, hcount, hbindings⟩ :=
    valueOf?_profile (ProfileEntry.assemble p)
  have hnumber : number? [.number (toString (ProfileEntry.assemble p).components.length)]
      = some p.expand.length := by
    rw [number?, constant?_toString, ProfileEntry.assemble, List.length_map]
  have hbraces : braced? (ProfileEntry.assemble p).trees
      = some (recordTrees (ProfileEntry.assemble p).fields) := rfl
  unfold ProfileRow.read?
  refine Option.bind_eq_some_iff.mpr ⟨_, hbraces, ?_⟩
  refine Option.bind_eq_some_iff.mpr ⟨_, fields?_profile (ProfileEntry.assemble p), ?_⟩
  refine Option.bind_eq_some_iff.mpr ⟨_, fieldOf?_eq hname rfl, ?_⟩
  refine Option.bind_eq_some_iff.mpr ⟨_, fieldOf?_eq hpath (text?_literal _), ?_⟩
  refine Option.bind_eq_some_iff.mpr ⟨_, fieldOf?_eq hlocalized (text?_literal _), ?_⟩
  refine Option.bind_eq_some_iff.mpr ⟨_, fieldOf?_eq hfile (text?_literal _), ?_⟩
  refine Option.bind_eq_some_iff.mpr ⟨_, fieldOf?_eq htype (text?_literal _), ?_⟩
  refine Option.bind_eq_some_iff.mpr ⟨_, fieldOf?_eq hcount hnumber, ?_⟩
  refine Option.bind_eq_some_iff.mpr ⟨_, fieldOf?_eq hbindings (bindings?_componentTrees p), ?_⟩
  rfl

theorem elements_entryTrees (profiles : List Profile) :
    elements (ProfileTable.entryTrees (profiles.map ProfileEntry.assemble))
      = profiles.map fun p => (ProfileEntry.assemble p).trees := by
  have hcomma : ∀ e ∈ profiles.map ProfileEntry.assemble, ∀ t ∈ e.trees, t.isMark "," = false := by
    simp [ProfileEntry.trees, Tree.isMark]
  rw [ProfileTable.entryTrees, elements_flatMap hcomma, List.map_map]
  rfl

namespace ProfileTable

/-- The array that the text defines. -/
def definition (entries : List ProfileEntry) : ArrayDefinition :=
  ⟨"profile_template", "profile_templates", [.number (toString entries.length)], entryTrees entries⟩

/-- The table has a row for each profile, in their order. -/
theorem read?_definition (profiles : List Profile) :
    Table.read? (definition (profiles.map ProfileEntry.assemble))
      = some ⟨profiles.length, profiles.map ProfileRow.ofProfile⟩ := by
  have hsize : number? [.number (toString (profiles.map ProfileEntry.assemble).length)]
      = some profiles.length := by
    rw [number?, constant?_toString, List.length_map]
  have hrows : (elements (entryTrees (profiles.map ProfileEntry.assemble))).mapM ProfileRow.read?
      = some (profiles.map ProfileRow.ofProfile) := by
    rw [elements_entryTrees, List.mapM_map]
    exact mapM_eq_some_map fun p _ => read?_profileTrees p
  rw [Table.read?, if_pos ⟨rfl, rfl⟩]
  refine Option.bind_eq_some_iff.mpr ⟨_, hsize, ?_⟩
  refine Option.bind_eq_some_iff.mpr ⟨_, hrows, ?_⟩
  rfl

end ProfileTable

end ProfileBindings.Artifact
