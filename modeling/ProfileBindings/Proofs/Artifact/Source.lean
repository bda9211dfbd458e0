import ProfileBindings.Proofs.Artifact.NameFunctions
import ProfileBindings.Proofs.Artifact.Preamble
import ProfileBindings.Proofs.Artifact.ProfileRows
import ProfileBindings.Proofs.Artifact.VerifyFunction

/-!
# What the generated source defines

The text of the source is read as C from its first character to its last. It defines the verify functions,
the table and the name functions, in this order and nothing else.

* `Source.Clean` : the parts are such that the text is read as it is meant;
* `Source.functions` : the functions that are defined.

Main statements: `Source.functionsIn_print` and `Source.definitionsIn_print`.
-/

namespace ProfileBindings.Artifact.Source

open C

/-- What is printed as it is can be, wherever it stands. -/
structure Clean (s : Source) : Prop where
  license : ∀ license ∈ s.spdxLicense, '\n' ∉ license.toList
  headerInclude : '\n' ∉ s.headerInclude.toList ∧ '"' ∉ s.headerInclude.toList
  verifyFunctions : ∀ f ∈ s.verifyFunctions, Text.isIdentifier f.name = true
  profiles : ∀ e ∈ s.profiles, e.Clean
  inputs : s.inputs.Enumerates
  outputs : s.outputs.Enumerates

/-! ## Trees -/

/-- The definitions. -/
def trees (s : Source) : List Tree :=
  s.verifyFunctions.flatMap VerifyFunction.trees ++ ProfileTable.trees s.profiles ++ s.inputs.trees
    ++ s.outputs.trees

theorem reads_print {s : Source} (h : s.Clean) :
    ∃ atoms, Remains atoms ∧ Reads .start s.print.toList
      (Tree.tokensOf (atoms.map .leaf ++ s.trees)) .start := by
  obtain ⟨atoms, hremains, hhead⟩ := reads_head h.license h.headerInclude
  have hverify : Reads .start (String.join (s.verifyFunctions.map VerifyFunction.print)).toList
      (Tree.tokensOf (s.verifyFunctions.flatMap VerifyFunction.trees)) .start := by
    rw [Tree.tokensOf_flatMap]
    exact Reads.join fun f hf => VerifyFunction.reads_print f (h.verifyFunctions f hf)
  have htable := ProfileTable.reads_print h.profiles
  have hend : ReadsLines ["", "// clang-format on"] [] :=
    ReadsLines.blank.append (ReadsLines.literal rfl (by decide) rfl)
  have hfunctions := (NameFunctions.reads_print h.inputs).append_text
    (NameFunctions.reads_print h.outputs)
  have hall := (((hhead.append_text hverify).append_text htable).append_text hfunctions).append_text hend
  refine ⟨atoms, hremains, ?_⟩
  unfold print
  simp only [String.append_assoc, List.append_nil, List.append_assoc, trees, Tree.tokensOf_append,
    Tree.tokensOf_leaves] at hall ⊢
  exact hall

theorem trees?_print {s : Source} (h : s.Clean) :
    ∃ atoms, Remains atoms ∧ trees? s.print = some (atoms.map .leaf ++ s.trees) := by
  obtain ⟨atoms, hremains, hread⟩ := reads_print h
  refine ⟨atoms, hremains, ?_⟩
  rw [trees?, tokens_of_reads hread, nest_tokensOf]

/-! ## Functions -/

/-- The functions that the source defines. -/
def functions (s : Source) : List Function :=
  s.verifyFunctions.map VerifyFunction.function
    ++ [s.inputs.stringFunction, s.inputs.enumFunction, s.outputs.stringFunction, s.outputs.enumFunction]

/-- A leaf in front of a leaf is no function. -/
theorem functionsIn_leaf (a b : Atom) (ts : List Tree) :
    functionsIn (.leaf a :: .leaf b :: ts) = functionsIn (.leaf b :: ts) := by
  cases a <;> rfl

theorem functionsIn_leaves (atoms : List Atom) (b : Atom) (ts : List Tree) :
    functionsIn (atoms.map .leaf ++ .leaf b :: ts) = functionsIn (.leaf b :: ts) := by
  induction atoms with
  | nil => rfl
  | cons a atoms ih =>
    rw [← ih]
    cases atoms with
    | nil => exact functionsIn_leaf a b ts
    | cons a' atoms => exact functionsIn_leaf a a' _

theorem functionsIn_verify (fs : List VerifyFunction) (ts : List Tree) :
    functionsIn (fs.flatMap VerifyFunction.trees ++ ts)
      = fs.map VerifyFunction.function ++ functionsIn ts := by
  induction fs with
  | nil => rfl
  | cons f fs ih =>
    rw [List.flatMap_cons, List.append_assoc, List.map_cons, List.cons_append, ← ih]
    rfl

theorem functionsIn_table (entries : List ProfileEntry) (ts : List Tree) :
    functionsIn (ProfileTable.trees entries ++ ts) = functionsIn ts := rfl

theorem functionsIn_names (f : NameFunctions) (ts : List Tree) :
    functionsIn (f.trees ++ ts) = f.stringFunction :: f.enumFunction :: functionsIn ts := rfl

/-- The definitions begin with a leaf, whichever comes first. -/
theorem exists_leaf_trees (s : Source) : ∃ b ts, s.trees = .leaf b :: ts := by
  unfold trees
  cases s.verifyFunctions with
  | nil => exact ⟨_, _, rfl⟩
  | cons f fs => exact ⟨_, _, rfl⟩

/-- The source defines its functions, in their order, and no others. -/
theorem functionsIn_print {s : Source} (h : s.Clean) :
    (trees? s.print).map functionsIn = some s.functions := by
  obtain ⟨atoms, -, htrees⟩ := trees?_print h
  obtain ⟨b, ts, hleaf⟩ := exists_leaf_trees s
  -- The head is passed over leaf by leaf, and the table has no function in it.
  have hfunctions : functionsIn s.trees = s.functions := by
    rw [trees, List.append_assoc, List.append_assoc, functionsIn_verify, functionsIn_table,
      functionsIn_names, ← List.append_nil s.outputs.trees, functionsIn_names]
    rfl
  rw [htrees, Option.map_some, hleaf, functionsIn_leaves, ← hleaf, hfunctions]

theorem functionsNamed_print {s : Source} (h : s.Clean) (name : String) :
    functionsNamed s.print name = s.functions.filter (·.name = name) := by
  obtain ⟨ts, hts, hfunctions⟩ := Option.map_eq_some_iff.mp (functionsIn_print h)
  rw [functionsNamed, hts, ← hfunctions]

/-! ## The table -/

/-- A tree begins a definition of an array only if the third one behind it is a size. -/
theorem definitionsIn_cons (t₀ t₁ t₂ t₃ : Tree) (ts : List Tree) (h : ∀ size, t₃ ≠ .group .square size) :
    definitionsIn (t₀ :: t₁ :: t₂ :: t₃ :: ts) = definitionsIn (t₁ :: t₂ :: t₃ :: ts) := by
  rw [definitionsIn.eq_def]
  split
  · contradiction
  · next heq =>
    simp only [List.cons.injEq] at heq
    exact absurd heq.2.2.2.1 (h _)
  · next heq =>
    obtain ⟨rfl, rfl⟩ := List.cons.inj heq
    rfl

theorem definitionsIn_leaves (atoms : List Atom) (a b : Atom) (t : Tree) (ts : List Tree)
    (h : ∀ size, t ≠ .group .square size) :
    definitionsIn (atoms.map .leaf ++ .leaf a :: .leaf b :: t :: ts)
      = definitionsIn (.leaf a :: .leaf b :: t :: ts) := by
  induction atoms with
  | nil => rfl
  | cons a₀ atoms ih =>
    rw [← ih]
    -- Four trees decide, and how many of them are atoms depends on how many are left.
    rcases atoms with _ | ⟨a₁, _ | ⟨a₂, _ | ⟨a₃, atoms⟩⟩⟩
    · exact definitionsIn_cons _ _ _ _ _ h
    · exact definitionsIn_cons _ _ _ _ _ (by simp)
    · exact definitionsIn_cons _ _ _ _ _ (by simp)
    · exact definitionsIn_cons _ _ _ _ _ (by simp)

/-- A tree in front of brackets begins no definition of an array. -/
theorem definitionsIn_group (t : Tree) (b : Bracket) (inside ts : List Tree) :
    definitionsIn (t :: .group b inside :: ts) = definitionsIn (.group b inside :: ts) := by
  rw [definitionsIn.eq_def]
  split
  · contradiction
  · next heq => simp at heq
  · next heq =>
    obtain ⟨rfl, rfl⟩ := List.cons.inj heq
    rfl

theorem definitionsIn_verify (fs : List VerifyFunction) (ts : List Tree) :
    definitionsIn (fs.flatMap VerifyFunction.trees ++ ts) = definitionsIn ts := by
  induction fs with
  | nil => rfl
  | cons f fs ih =>
    rw [List.flatMap_cons, List.append_assoc, ← ih]
    exact definitionsIn_group (.word f.name) _ _ _

theorem definitionsIn_names (f : NameFunctions) (ts : List Tree) :
    definitionsIn (f.trees ++ ts) = definitionsIn ts := by
  obtain ⟨direction, names, fallback⟩ := f
  cases direction <;> rfl

theorem definitionsIn_table (entries : List ProfileEntry) (ts : List Tree) :
    definitionsIn (ProfileTable.trees entries ++ ts)
      = ProfileTable.definition entries :: definitionsIn ts := rfl

/-- The source defines one array of structures, the table. -/
theorem definitionsIn_print {s : Source} (h : s.Clean) :
    (trees? s.print).map definitionsIn = some [ProfileTable.definition s.profiles] := by
  obtain ⟨atoms, -, htrees⟩ := trees?_print h
  have hdefinitions : definitionsIn s.trees = [ProfileTable.definition s.profiles] := by
    rw [trees, List.append_assoc, List.append_assoc, definitionsIn_verify, definitionsIn_table,
      definitionsIn_names, ← List.append_nil s.outputs.trees, definitionsIn_names]
    rfl
  have hhead : definitionsIn (atoms.map .leaf ++ s.trees) = definitionsIn s.trees := by
    unfold trees
    cases s.verifyFunctions with
    | nil => exact definitionsIn_leaves atoms _ _ _ _ (by simp)
    | cons f fs => exact definitionsIn_leaves atoms _ _ _ _ (by simp)
  rw [htrees, Option.map_some, hhead, hdefinitions]

end ProfileBindings.Artifact.Source
