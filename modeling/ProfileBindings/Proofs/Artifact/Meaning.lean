import ProfileBindings.Proofs.Artifact.Sound

/-!
# What the generated source means

A document without errors is turned into a C text. Read back as C, the text says what the document says:
whatever the texts in the document are, and whichever enumerators it names.

Main statements:
* `verifyFunction_accepts_declared_paths` : a verify function accepts exactly the paths of its profile;
* `table_eq_rows` : the table has the rows of the profiles;
* `nameFunctions_round_trip` : the name functions are inverse to each other on the names of the document.
-/

namespace ProfileBindings.Artifact

open C Check

variable {config : Config} {d : Document} {text : String}

/-- A text that could be generated is the assembled one, and its document is sound. -/
theorem sound_of_render (hrender : render .source config d = .ok text)
    (herrors : hasErrors (issues d config.pathsPerTemplate) = false) :
    config.Valid ∧ SoundDocument config.pathsPerTemplate d ∧ (Source.assemble config d).print = text := by
  obtain ⟨hc, -, -, rfl⟩ := render_source_eq_ok_iff.mp hrender
  exact ⟨hc, hasErrors_eq_false_iff.mp herrors, rfl⟩

/-- A function of the document is the only function of its name in the text. -/
theorem functionsNamed_of_render (hrender : render .source config d = .ok text)
    (herrors : hasErrors (issues d config.pathsPerTemplate) = false) {f : Function}
    (hf : f ∈ (Source.assemble config d).functions) : functionsNamed text f.name = [f] := by
  obtain ⟨hc, hd, rfl⟩ := sound_of_render hrender herrors
  exact Source.functionsNamed_assemble hc hd hf

/-! ## Verify functions -/

/-- The text has one verify function for each profile. Its cases are told apart by their labels, and it
accepts a text exactly if the text is a path of a component of the profile. -/
theorem verifyFunction_accepts_declared_paths (hrender : render .source config d = .ok text)
    (herrors : hasErrors (issues d config.pathsPerTemplate) = false) {p : Profile} (hp : p ∈ d.profiles) :
    ∃ f labels, functionsNamed text (config.verifyPrefix ++ p.name.stem ++ "_subpath") = [f] ∧
      f.caseLabels? = some [labels] ∧ labels.Nodup ∧
      ∀ s : String, '\x00' ∉ s.toList →
        f.call [.text (Text.utf8 s), .number s.utf8ByteSize]
            = some (.ofBool ((Buckets.ofProfile p).accepts s)) ∧
          ((Buckets.ofProfile p).accepts s = true ↔ ∃ c ∈ p.expand, s ∈ c.paths) := by
  have hmem : (VerifyFunction.ofProfile config p).function ∈ (Source.assemble config d).functions :=
    List.mem_append_left _ (List.mem_map_of_mem (List.mem_map_of_mem hp))
  refine ⟨(VerifyFunction.ofProfile config p).function, _,
    functionsNamed_of_render hrender herrors hmem, VerifyFunction.caseLabels?_function _,
    VerifyFunction.nodup_labels_ofProfile config p, fun s hs => ⟨?_, Buckets.accepts_ofProfile p s⟩⟩
  exact VerifyFunction.call_ofProfile config p hs

/-- The button of either hand is accepted, by its own path and by that of its surface; a motor has no
button. -/
theorem verifyFunction_simpleController :
    ∃ f, functionsNamed (Source.assemble .standard simpleDocument).print
        "oxr_verify_khr_simple_controller_subpath" = [f] ∧
      f.call [.text (Text.utf8 "/user/hand/left/input/select/click"), .number 34] = some (.number 1) ∧
      f.call [.text (Text.utf8 "/user/hand/right/input/select"), .number 29] = some (.number 1) ∧
      f.call [.text (Text.utf8 "/user/hand/left/output/haptic/click"), .number 35] = some (.number 0) := by
  obtain ⟨f, labels, hf, -, -, hcall⟩ := verifyFunction_accepts_declared_paths render_simpleDocument
    hasErrors_simpleDocument (p := simpleController) (by simp [simpleDocument])
  have hname : Config.standard.verifyPrefix ++ simpleController.name.stem ++ "_subpath"
      = "oxr_verify_khr_simple_controller_subpath" := rfl
  have hclick : (Buckets.ofProfile simpleController).accepts
      "/user/hand/left/input/select/click" = true := rfl
  have hselect : (Buckets.ofProfile simpleController).accepts "/user/hand/right/input/select" = true := rfl
  have hhaptic : (Buckets.ofProfile simpleController).accepts
      "/user/hand/left/output/haptic/click" = false := rfl
  refine ⟨f, hname ▸ hf, ?_, ?_, ?_⟩
  · have h := (hcall "/user/hand/left/input/select/click" (by decide)).1
    rwa [hclick] at h
  · have h := (hcall "/user/hand/right/input/select" (by decide)).1
    rwa [hselect] at h
  · have h := (hcall "/user/hand/left/output/haptic/click" (by decide)).1
    rwa [hhaptic] at h

/-! ## The table -/

/-- The rows of the table are those of the profiles. -/
theorem table?_of_render (hrender : render .source config d = .ok text)
    (herrors : hasErrors (issues d config.pathsPerTemplate) = false) :
    table? text = some ⟨d.profiles.length, d.profiles.map ProfileRow.ofProfile⟩ := by
  obtain ⟨hc, hd, rfl⟩ := sound_of_render hrender herrors
  rw [table?, Source.definitionsIn_print (Source.clean_assemble hc hd)]
  exact ProfileTable.read?_definition d.profiles

/-- The table has the rows of the profiles, in document order and as many as it is declared with. A row
counts its bindings, and the paths of a binding fit into the array that is declared for them. -/
theorem table_eq_rows (hrender : render .source config d = .ok text)
    (herrors : hasErrors (issues d config.pathsPerTemplate) = false) :
    ∃ table, table? text = some table ∧
      table.size = d.profiles.length ∧ table.rows = d.profiles.map ProfileRow.ofProfile ∧
      ∀ row ∈ table.rows, row.bindingCount = row.bindings.length ∧
        ∀ binding ∈ row.bindings, binding.paths.length ≤ config.pathsPerTemplate := by
  obtain ⟨-, hd, -⟩ := sound_of_render hrender herrors
  refine ⟨_, table?_of_render hrender herrors, rfl, rfl, ?_⟩
  intro row hrow
  obtain ⟨p, hp, rfl⟩ := List.mem_map.mp hrow
  refine ⟨(List.length_map ..).symm, fun binding hbinding => ?_⟩
  obtain ⟨c, hcomponent, rfl⟩ := List.mem_map.mp hbinding
  -- There is room for all paths and for the `NULL` behind them.
  have hfits : c.paths.length < config.pathsPerTemplate := (hd.profiles p hp).fits c hcomponent
  have hlength : (BindingRow.ofComponent c).paths.length = c.paths.length + 1 := by
    simp [BindingRow.ofComponent]
  omega

/-- The table of the small document has one row, with a binding for each surface of either hand. The motor
is an output, and the pose is nothing. -/
theorem table_simpleDocument :
    ∃ table, table? (Source.assemble .standard simpleDocument).print = some table ∧ table.size = 1 ∧
      table.rows.map (fun row => (row.name, row.bindingCount)) = [("XRT_DEVICE_SIMPLE_CONTROLLER", 6)] ∧
      (table.rows.flatMap fun row => row.bindings.map fun b => (b.input, b.output)).take 3 = [
        (.name "XRT_INPUT_SIMPLE_SELECT_CLICK", .constant 0), (.constant 0, .constant 0),
        (.constant 0, .name "XRT_OUTPUT_NAME_SIMPLE_VIBRATION")] := by
  obtain ⟨table, htable, hsize, hrows, -⟩ := table_eq_rows render_simpleDocument hasErrors_simpleDocument
  refine ⟨table, htable, hsize, ?_, ?_⟩
  · rw [hrows]
    rfl
  · rw [hrows]
    rfl

/-! ## Name functions -/

theorem enumFunction_mem_functions (config : Config) (d : Document) (direction : Direction) :
    (NameFunctions.ofDocument config d direction).enumFunction ∈ (Source.assemble config d).functions := by
  apply List.mem_append_right
  cases direction <;> simp [Source.assemble, NameFunctions.ofDocument, EnumeratorNames.of, Config.fallback]

theorem stringFunction_mem_functions (config : Config) (d : Document) (direction : Direction) :
    (NameFunctions.ofDocument config d direction).stringFunction ∈ (Source.assemble config d).functions := by
  apply List.mem_append_right
  cases direction <;> simp [Source.assemble, NameFunctions.ofDocument, EnumeratorNames.of, Config.fallback]

/-- In either direction, the text has one function from names to enumerators and one back. On the names of
the document each undoes the other. Other names are read as the fallback, and other enumerators have no
name. The labels of each `switch` are distinct. -/
theorem nameFunctions_round_trip (hrender : render .source config d = .ok text)
    (herrors : hasErrors (issues d config.pathsPerTemplate) = false) (direction : Direction) :
    ∃ toEnum toName enumSwitches nameSwitches,
      functionsNamed text (enumName direction) = [toEnum] ∧
      functionsNamed text (stringName direction) = [toName] ∧
      toEnum.caseLabels? = some enumSwitches ∧ toName.caseLabels? = some nameSwitches ∧
      (∀ labels ∈ enumSwitches ++ nameSwitches, labels.Nodup) ∧
      (∀ name ∈ ((EnumeratorNames.ofDocument d config.extraInputs).of direction).toList,
        toEnum.call [.text (Text.utf8 name)] = some (.enumerator name) ∧
          toName.call [.enumerator name] = some (.text (Text.utf8 name))) ∧
      (∀ s : String, '\x00' ∉ s.toList →
        s ∉ ((EnumeratorNames.ofDocument d config.extraInputs).of direction).toList →
          toEnum.call [.text (Text.utf8 s)] = some (.enumerator (config.fallback direction))) ∧
      ∀ enumerator, enumerator ∉ ((EnumeratorNames.ofDocument d config.extraInputs).of direction).toList →
        toName.call [.enumerator enumerator] = some (.text (Text.utf8 "UNKNOWN")) := by
  obtain ⟨hc, hd, -⟩ := sound_of_render hrender herrors
  have hnames := NameFunctions.enumerates_ofDocument hc hd direction
  refine ⟨(NameFunctions.ofDocument config d direction).enumFunction,
    (NameFunctions.ofDocument config d direction).stringFunction, _, _,
    functionsNamed_of_render hrender herrors (enumFunction_mem_functions config d direction),
    functionsNamed_of_render hrender herrors (stringFunction_mem_functions config d direction),
    NameFunctions.caseLabels?_enumFunction _, NameFunctions.caseLabels?_stringFunction _, ?_, ?_, ?_, ?_⟩
  · intro labels hlabels
    obtain rfl : labels = (NameFunctions.ofDocument config d direction).names.map .name := by
      simpa using hlabels
    exact (NameFunctions.nodup_names config d direction).map fun _ _ h => Expr.name.inj h
  · intro name hname
    have hmem : name ∈ (NameFunctions.ofDocument config d direction).names := hname
    have hidentifier := NameFunctions.isIdentifier_of_isEnumeratorOf (hnames.names name hmem)
    have hzero : '\x00' ∉ name.toList := zero_not_mem_identifier hidentifier
    constructor
    · rw [NameFunctions.call_enumFunction hnames hzero, if_pos hmem]
    · rw [NameFunctions.call_stringFunction hnames, if_pos hmem]
  · intro s hs hunknown
    have hnot : s ∉ (NameFunctions.ofDocument config d direction).names := hunknown
    rw [NameFunctions.call_enumFunction hnames hs, if_neg hnot]
    rfl
  · intro enumerator hunknown
    have hnot : enumerator ∉ (NameFunctions.ofDocument config d direction).names := hunknown
    rw [NameFunctions.call_stringFunction hnames, if_neg hnot]

/-- The button of the small document has a name that is read back; a name of something else is read as the
fallback, and so is the name of the motor where inputs are asked for. -/
theorem nameFunctions_simpleDocument :
    ∃ toEnum toName,
      functionsNamed (Source.assemble .standard simpleDocument).print "xrt_input_name_enum" = [toEnum] ∧
      functionsNamed (Source.assemble .standard simpleDocument).print "xrt_input_name_string" = [toName] ∧
      toEnum.call [.text (Text.utf8 "XRT_INPUT_SIMPLE_SELECT_CLICK")]
        = some (.enumerator "XRT_INPUT_SIMPLE_SELECT_CLICK") ∧
      toName.call [.enumerator "XRT_INPUT_SIMPLE_SELECT_CLICK"]
        = some (.text (Text.utf8 "XRT_INPUT_SIMPLE_SELECT_CLICK")) ∧
      toEnum.call [.text (Text.utf8 "XRT_OUTPUT_NAME_SIMPLE_VIBRATION")]
        = some (.enumerator "XRT_INPUT_GENERIC_TRACKER_POSE") ∧
      toName.call [.enumerator "XRT_OUTPUT_NAME_SIMPLE_VIBRATION"] = some (.text (Text.utf8 "UNKNOWN")) := by
  obtain ⟨toEnum, toName, _, _, henum, hname, -, -, -, hround, hfallback, hunknown⟩ :=
    nameFunctions_round_trip render_simpleDocument hasErrors_simpleDocument .input
  have hclick := hround "XRT_INPUT_SIMPLE_SELECT_CLICK" (by decide)
  exact ⟨toEnum, toName, henum, hname, hclick.1, hclick.2,
    hfallback "XRT_OUTPUT_NAME_SIMPLE_VIBRATION" (by decide) (by decide),
    hunknown "XRT_OUTPUT_NAME_SIMPLE_VIBRATION" (by decide)⟩

end ProfileBindings.Artifact
