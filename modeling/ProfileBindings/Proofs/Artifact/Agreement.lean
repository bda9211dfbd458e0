import ProfileBindings.Command.Summary
import ProfileBindings.Proofs.Artifact.Header
import ProfileBindings.Proofs.Artifact.Meaning
import ProfileBindings.Proofs.C.Cases
import ProfileBindings.Proofs.C.Signature

/-!
# What is generated and what is listed

The source defines what the header declares, the constants of the header are those of the table, and the list of
a document tells the names, the counts and the buckets that stand in the source. All three are made from the
document on their own.

* `signatures` : the functions of a document with their types;
* `Listed` : what is listed of a profile is what the source has for it.

Main statement: `source_header_list_agree`.
-/

namespace ProfileBindings.Artifact

open C Check Command

/-! ## Signatures -/

/-- The signature of a verify function. -/
def VerifyFunction.signatureOf (name : String) : Signature := ⟨name, [.word "bool"], parameterTrees⟩

/-- The signatures of the name functions of a direction. -/
def NameFunctions.signatures (direction : Direction) : List Signature := [
  ⟨stringName direction, [.word "const", .word "char", .mark "*"],
    [.word "enum", .word (enumType direction), .word direction.word]⟩,
  ⟨enumName direction, [.word "enum", .word (enumType direction)],
    [.word "const", .word "char", .mark "*", .word direction.word]⟩]

/-- The signatures of the functions of a document. -/
def signatures (config : Config) (d : Document) : List Signature :=
  d.profiles.map (fun p => VerifyFunction.signatureOf (VerifyFunction.nameOf config p.name))
    ++ (NameFunctions.signatures .input ++ NameFunctions.signatures .output)

theorem names_signatures (config : Config) (d : Document) : (signatures config d).map (·.name)
    = d.profiles.map (fun p => VerifyFunction.nameOf config p.name) ++ Source.enumeratorFunctions := by
  rw [signatures, List.map_append, List.map_map]
  rfl

/-- What is left of a comment begins no signature. -/
theorem signaturesFrom_remains {ends : Tree → Bool} {atoms : List Atom} (h : Remains atoms) (ts : List Tree) :
    signaturesFrom ends [] (atoms.map .leaf ++ ts) = signaturesFrom ends [] ts := by
  rcases h with rfl | ⟨front, rfl⟩
  · rfl
  · rw [List.map_append, List.append_assoc]
    exact signaturesFrom_slash [] front ts

namespace Source

theorem signaturesFrom_verify (f : VerifyFunction) (ts : List Tree) :
    signaturesFrom Tree.isBody [] (f.trees ++ ts)
      = VerifyFunction.signatureOf f.name :: signaturesFrom Tree.isBody [] ts := rfl

theorem signaturesFrom_table (entries : List ProfileEntry) (ts : List Tree) :
    signaturesFrom Tree.isBody [] (ProfileTable.trees entries ++ ts) = signaturesFrom Tree.isBody [] ts := rfl

theorem signaturesFrom_names (f : NameFunctions) (ts : List Tree) :
    signaturesFrom Tree.isBody [] (f.trees ++ ts)
      = NameFunctions.signatures f.direction ++ signaturesFrom Tree.isBody [] ts := rfl

/-- The source defines the functions of its document. -/
theorem defined?_assemble {config : Config} {d : Document} (hc : config.Valid)
    (hd : SoundDocument config.pathsPerTemplate d) :
    defined? (assemble config d).print = some (signatures config d) := by
  obtain ⟨atoms, hremains, htrees⟩ := trees?_print (clean_assemble hc hd)
  -- The table between the functions has brackets, but none that parameters stand in.
  have hsignatures : signaturesFrom Tree.isBody [] (assemble config d).trees = signatures config d := by
    rw [trees, List.append_assoc, List.append_assoc, signaturesFrom_flatMap signaturesFrom_verify,
      signaturesFrom_table, signaturesFrom_names, ← List.append_nil (assemble config d).outputs.trees,
      signaturesFrom_names, assemble, List.map_map]
    rfl
  rw [defined?, htrees, Option.map_some, signaturesFrom_remains hremains, hsignatures]

end Source

namespace Header

theorem signaturesFrom_verify (name : String) (ts : List Tree) :
    signaturesFrom (Tree.isMark ";") [] (VerifyFunction.prototypeTrees name ++ ts)
      = VerifyFunction.signatureOf name :: signaturesFrom (Tree.isMark ";") [] ts := rfl

theorem signaturesFrom_table (ts : List Tree) :
    signaturesFrom (Tree.isMark ";") [] (tableTrees ++ ts) = signaturesFrom (Tree.isMark ";") [] ts := rfl

theorem signaturesFrom_names (direction : Direction) (ts : List Tree) :
    signaturesFrom (Tree.isMark ";") [] (NameFunctions.prototypeTrees direction ++ ts)
      = NameFunctions.signatures direction ++ signaturesFrom (Tree.isMark ";") [] ts := rfl

theorem clean_assemble {config : Config} (hc : config.Valid) (d : Document) : (assemble config d).Clean where
  license license hlicense := Config.not_mem_of_isLicense (hc.license license hlicense)
  definesInclude := Config.not_mem_of_isIncludePath hc.definesInclude
  verifyFunctions name hname := by
    obtain ⟨p, -, rfl⟩ := List.mem_map.mp hname
    exact Source.isIdentifier_nameOf hc p.name

/-- The header declares the functions of its document. -/
theorem declared?_assemble {config : Config} (hc : config.Valid) (d : Document) :
    declared? (assemble config d).print = some (signatures config d) := by
  obtain ⟨atoms, hremains, htrees⟩ := trees?_print (clean_assemble hc d)
  have hsignatures : signaturesFrom (Tree.isMark ";") [] (assemble config d).trees = signatures config d := by
    rw [trees, List.append_assoc, List.append_assoc, signaturesFrom_flatMap signaturesFrom_verify,
      signaturesFrom_table, signaturesFrom_names, ← List.append_nil (NameFunctions.prototypeTrees .output),
      signaturesFrom_names, assemble, List.map_map]
    rfl
  rw [declared?, htrees, Option.map_some, signaturesFrom_remains hremains, hsignatures]

end Header

/-! ## Cases -/

namespace VerifyFunction

/-- Each path of a chain is compared with, in their order. -/
theorem compared_chain (paths : List String) : (chain paths).compared = paths.map Text.utf8 := by
  induction paths with
  | nil => rfl
  | cons path paths ih =>
    have hcondition : (condition path).compared = [Text.utf8 path] := rfl
    have hanswer : Stmt.compared (.seq (answer "true") .skip) = [] := rfl
    rw [chain, Stmt.compared, hcondition, hanswer, ih]
    rfl

/-- The labels of the one `switch` with the paths behind them. Nothing is compared with behind the default
label. -/
theorem cases?_function (f : VerifyFunction) : f.function.cases?
    = some [f.cases.map (fun entry => (some (.constant entry.1), entry.2.map Text.utf8)) ++ [(none, [])]] := by
  have hquiet : Unlabelled (answer "false") := .ret _
  have hcases := casesIn_cases (fun a ha => unlabelled_of_mem_entries (f := f) ha) hquiet
  have hbodies : f.code.switchBodies = [.cases f.entries (answer "false")] := rfl
  rw [Function.cases?, code?_function, Option.map_some, hbodies, List.map_singleton, hcases, entries,
    List.map_map]
  simp [Function.comp_def, compared_chain, answer, Stmt.compared, Expr.compared]

end VerifyFunction

/-! ## The list -/

/-- What is listed of a profile is what the source has for it: the number of its bindings, and the name of its
function with the labels and the paths that the function compares with. -/
structure Listed (source : String) (s : Summary) (row : ProfileRow) : Prop where
  bindings : s.bindings = row.bindingCount
  buckets : ∃ f buckets, functionsNamed source s.verifyFunction = [f] ∧ s.buckets = some buckets ∧
    f.cases? = some [buckets.map (fun bucket => (some (.constant bucket.1), bucket.2.map Text.utf8))
      ++ [(none, [])]]

variable {config : Config} {d : Document} {source header : String}

/-- There is room for the paths of a binding, with the `NULL` behind them. -/
theorem length_paths_le {capacity : Nat} {p : Profile} (hp : SoundProfile capacity p) {binding : BindingRow}
    (h : binding ∈ (ProfileRow.ofProfile p).bindings) : binding.paths.length ≤ capacity := by
  obtain ⟨c, hc, rfl⟩ := List.mem_map.mp h
  rw [BindingRow.ofComponent, List.length_append, List.length_map]
  exact hp.fits c hc

theorem listed_of_render (hsource : render .source config d = .ok source)
    (herrors : hasErrors (issues d config.pathsPerTemplate) = false) {p : Profile} (hp : p ∈ d.profiles) :
    Listed source (Summary.ofProfile config true p) (.ofProfile p) := by
  have hmem : (VerifyFunction.ofProfile config p).function ∈ (Source.assemble config d).functions :=
    List.mem_append_left _ (List.mem_map_of_mem (List.mem_map_of_mem hp))
  exact ⟨rfl, _, _, functionsNamed_of_render hsource herrors hmem, rfl, VerifyFunction.cases?_function _⟩

/-- The functions that the source defines are those that the header declares, in the same order and with the same
types: the verify function of each profile, by the name that is listed for it, and the name functions. No two
have the same name. The header counts the entries of the table, and it has room for the pointers of each
binding. What is listed of each profile is what the source has for it. -/
theorem source_header_list_agree (hsource : render .source config d = .ok source)
    (hheader : render .header config d = .ok header)
    (herrors : hasErrors (issues d config.pathsPerTemplate) = false) :
    ∃ functions table,
      defined? source = some functions ∧ declared? header = some functions ∧
      functions.map (·.name) = d.profiles.map (fun p => (Summary.ofProfile config true p).verifyFunction)
        ++ Source.enumeratorFunctions ∧
      (functions.map (·.name)).Nodup ∧
      table? source = some table ∧ macro? header "NUM_PROFILE_TEMPLATES" = some table.size ∧
      table.size = table.rows.length ∧
      macro? header "PATHS_PER_BINDING_TEMPLATE" = some config.pathsPerTemplate ∧
      (∀ row ∈ table.rows, ∀ binding ∈ row.bindings, binding.paths.length ≤ config.pathsPerTemplate) ∧
      List.Forall₂ (fun p row => Listed source (Summary.ofProfile config true p) row)
        d.profiles table.rows := by
  -- Both artifacts are compared with what the document asks for, and not with each other.
  obtain ⟨hc, hd, hassembled⟩ := sound_of_render hsource herrors
  obtain ⟨-, -, rfl⟩ := render_header_eq_ok_iff.mp hheader
  have hclean := Header.clean_assemble hc d
  have hdefined : defined? source = some (signatures config d) := hassembled ▸ Source.defined?_assemble hc hd
  have hnames : ((signatures config d).map (·.name)).Nodup := by
    rw [names_signatures, ← Source.functionNames_assemble]
    exact Source.nodup_functionNames hd
  refine ⟨_, _, hdefined, Header.declared?_assemble hc d, names_signatures config d, hnames,
    table?_of_render hsource herrors, Header.macro?_profileCount hclean, (List.length_map ..).symm,
    Header.macro?_pathsPerTemplate hclean, fun row hrow binding hbinding => ?_, ?_⟩
  · obtain ⟨p, hp, rfl⟩ := List.mem_map.mp hrow
    exact length_paths_le (hd.profiles p hp) hbinding
  · rw [List.forall₂_map_right_iff, List.forall₂_same]
    exact fun p hp => listed_of_render hsource herrors hp

theorem render_header_simpleDocument :
    render .header .standard simpleDocument = .ok (Header.assemble .standard simpleDocument).print :=
  render_header_eq_ok_iff.mpr ⟨valid_standard, by simp [simpleDocument], rfl⟩

/-- The two artifacts of the small document: five functions, one profile, room for eight pointers. The verify
function has a label for each of eleven lengths and the default one; two paths have the length 29. -/
theorem agreement_simpleDocument :
    ∃ functions f labelled,
      defined? (Source.assemble .standard simpleDocument).print = some functions ∧
      declared? (Header.assemble .standard simpleDocument).print = some functions ∧
      functions.map (·.name) = ["oxr_verify_khr_simple_controller_subpath", "xrt_input_name_string",
        "xrt_input_name_enum", "xrt_output_name_string", "xrt_output_name_enum"] ∧
      macro? (Header.assemble .standard simpleDocument).print "NUM_PROFILE_TEMPLATES" = some 1 ∧
      macro? (Header.assemble .standard simpleDocument).print "PATHS_PER_BINDING_TEMPLATE" = some 8 ∧
      functionsNamed (Source.assemble .standard simpleDocument).print
        "oxr_verify_khr_simple_controller_subpath" = [f] ∧
      f.cases? = some [labelled] ∧ labelled.length = 12 ∧
      labelled[3]? = some (some (.constant 29),
        [Text.utf8 "/user/hand/left/output/haptic", Text.utf8 "/user/hand/right/input/select"]) := by
  obtain ⟨functions, table, hdefined, hdeclared, hnames, -, -, hcount, hsize, hcapacity, -, hlisted⟩ :=
    source_header_list_agree render_simpleDocument render_header_simpleDocument hasErrors_simpleDocument
  have hone : simpleDocument.profiles = [simpleController] := rfl
  rw [hone] at hnames hlisted
  obtain ⟨row, rows, hrow, hrows, htable⟩ := List.forall₂_cons_left_iff.mp hlisted
  obtain rfl := List.forall₂_nil_left_iff.mp hrows
  obtain ⟨f, buckets, hf, hbuckets, hcases⟩ := hrow.buckets
  have hlist : (Summary.ofProfile .standard true simpleController).buckets
      = some (Buckets.ofProfile simpleController).toList := rfl
  obtain rfl := Option.some.inj (hlist.symm.trans hbuckets)
  have htableSize : table.size = 1 := by rw [hsize, htable, List.length_singleton]
  exact ⟨functions, f, _, hdefined, hdeclared, hnames, htableSize ▸ hcount, hcapacity, hf, hcases, rfl, rfl⟩

end ProfileBindings.Artifact
