import ProfileBindings.Command.Run
import ProfileBindings.Proofs.Command.Failure
import ProfileBindings.Proofs.Command.Load
import ProfileBindings.Proofs.Schema.Model

/-!
# Validating predicts generating

Both commands check the document in the same way, and nothing that can go wrong with an artifact is left for
later: with the built-in schema and a valid configuration, what has passed the checks is rendered.

* `validated` : the code that validating comes back with.

Main statements:
* `render_of_checked` : a document that has passed has either artifact;
* `validated_predicts_generated` : what validating says is what generating does.
-/

namespace ProfileBindings.Command

open Artifact (Kind)
open Files (Tree)
open Session (Finds FailsOnly outcome)

variable {r : GenerateRequest} {config : Config} {s : Session} {c : Checked}

/-- The code that validating comes back with, or the reason why there is none. -/
def validated (r : ValidateRequest) (config : Config) (s : Session) : Except Failure Nat :=
  (outcome (validate r config) s).1

/-- Validating tells whether the findings pass, if there are findings at all. -/
theorem validated_eq (r : ValidateRequest) (config : Config) (s : Session) :
    validated r config s =
      (checked r.input config s).map fun c => if c.passes r.strict then 0 else 1 := by
  have hrest : ∀ c : Checked, Finds (do
      (findingLines c).forM Host.say
      Host.say (verdictLine r.input.document c (c.passes r.strict))
      return if c.passes r.strict then 0 else 1 : Action (StateM Session) Nat)
        fun _ code => code = if c.passes r.strict then 0 else 1 := fun c =>
    ((Finds.forM (fun line => Finds.say line) (findingLines c)).bind fun _ =>
      (Finds.say _).bind fun _ => Finds.pure _).congr fun _ _ => by simp
  unfold validated checked validate
  rcases hcheck : outcome (check r.input config) s with ⟨result, s'⟩
  cases result with
  | error failure =>
    rw [Session.outcome_bind_of_error hcheck]
    rfl
  | ok c =>
    rw [Session.outcome_bind_of_ok hcheck]
    exact ((hrest c).finds s' _).mpr rfl

/-- Unless it is strict, validating looks at errors only. -/
theorem passes_eq (c : Checked) : c.passes false = decide (c.errorCount = 0) := by
  simp [Checked.passes]

theorem validated_error_iff {input : Input} {failure : Failure} :
    validated ⟨input, false⟩ config s = .error failure ↔ checked input config s = .error failure := by
  rw [validated_eq]
  exact map_eq_error_iff

theorem validated_one_iff {input : Input} : validated ⟨input, false⟩ config s = .ok 1 ↔
    ∃ c, checked input config s = .ok c ∧ c.errorCount ≠ 0 := by
  rw [validated_eq, map_eq_ok_iff]
  simp [passes_eq]

theorem validated_zero_iff {input : Input} : validated ⟨input, false⟩ config s = .ok 0 ↔
    ∃ c, checked input config s = .ok c ∧ c.errorCount = 0 := by
  rw [validated_eq, map_eq_ok_iff]
  simp [passes_eq]

/-- With the built-in schema and a valid configuration, a document that has passed has either artifact. -/
theorem render_of_checked (hschema : r.input.schemaDirectory = none) (hconfig : config.Valid)
    (hchecked : checked r.input config s = .ok c) (hzero : c.errorCount = 0) (kind : Kind) :
    ∃ text, Artifact.render kind config c.model = .ok text := by
  obtain ⟨hmodel, hissues, -⟩ := checked_eq_ok_iff.mp hchecked
  have hprofiles : c.model.profiles ≠ [] := (hmodel.nonempty_and_shaped hschema).1
  have herrors : Check.hasErrors (Check.issues c.model config.pathsPerTemplate) = false := by
    rw [← hissues]
    simpa [Check.hasErrors] using (errorCount_eq_zero_iff.mp hzero).1
  have hsound : Check.SoundDocument config.pathsPerTemplate c.model :=
    Check.hasErrors_eq_false_iff.mp herrors
  exact Artifact.exists_render_iff.mpr ⟨hconfig, hprofiles, fun _ p hp => (hsound.profiles p hp).expands⟩

/-- A document that has passed the checks passes everything in front of the outputs. -/
theorem passes_of_checked (hschema : r.input.schemaDirectory = none) (hconfig : config.Valid)
    (hchecked : checked r.input config s = .ok c) (hzero : c.errorCount = 0) :
    Passes s.files r config c.model := by
  obtain ⟨hmodel, hissues, hunknown⟩ := checked_eq_ok_iff.mp hchecked
  obtain ⟨hsound, hnone⟩ := errorCount_eq_zero_iff.mp hzero
  rw [hissues] at hsound
  rw [hnone] at hunknown
  exact ⟨hmodel, hsound, hunknown, fun _ _ kind _ => render_of_checked hschema hconfig hchecked hzero kind⟩

/-- A document passes everything in front of the outputs exactly if there is no error among the findings. -/
theorem exists_passes_iff (hschema : r.input.schemaDirectory = none) (hconfig : config.Valid) :
    (∃ d, Passes s.files r config d) ↔ ∃ c, checked r.input config s = .ok c ∧ c.errorCount = 0 := by
  constructor
  · rintro ⟨d, h⟩
    refine ⟨⟨d, Check.issues d config.pathsPerTemplate, []⟩,
      checked_eq_ok_iff.mpr ⟨h.model, rfl, h.declared⟩, ?_⟩
    exact errorCount_eq_zero_iff.mpr ⟨h.sound, rfl⟩
  · rintro ⟨c, hchecked, hzero⟩
    exact ⟨c.model, passes_of_checked hschema hconfig hchecked hzero⟩

/-- A document that has passed is refused by no artifact, so that what is left to fail are files. -/
theorem deliver_fails_for_file (hschema : r.input.schemaDirectory = none) (hconfig : config.Valid)
    (hchecked : checked r.input config s = .ok c) (hzero : c.errorCount = 0) :
    FailsOnly (deliver r config c.model : Action (StateM Session) Nat) fun failure =>
      ∃ path kind reason, failure = .output (.file path reason) ∧ path ∈ r.outputs ∧
        Kind.ofPath? path = some kind := by
  intro s' failure hfailure
  obtain ⟨reason, rfl, hreason⟩ := failsOnly_deliver r config c.model s' failure hfailure
  cases hreason with
  | @render kind reason hrender =>
    obtain ⟨text, htext⟩ := render_of_checked hschema hconfig hchecked hzero kind
    rw [htext] at hrender
    contradiction
  | file hpath hkind => exact ⟨_, _, _, rfl, hpath, hkind⟩

/-- With the built-in schema and a valid configuration, validating without strictness says what generating
does, whatever the outputs are. It fails exactly if generating fails while it checks the document, and for the
same reason. Its code is 1 exactly if generating refuses the document. Its code is 0 exactly if the document
passes everything in front of the outputs, the rendering of all that is asked for included; what generating
can then still fail for is the file of an output. -/
theorem validated_predicts_generated (r : GenerateRequest) (config : Config) (s : Session)
    (hschema : r.input.schemaDirectory = none) (hconfig : config.Valid) :
    (∀ failure, validated ⟨r.input, false⟩ config s = .error failure ↔
      checked r.input config s = .error failure) ∧
    (∀ failure, validated ⟨r.input, false⟩ config s = .error failure ↔
      generated r config s = .error failure ∧ failure.FromCheck) ∧
    (validated ⟨r.input, false⟩ config s = .ok 1 ↔
      ∃ errors, generated r config s = .error (.refused r.input.document errors)) ∧
    (validated ⟨r.input, false⟩ config s = .ok 0 ↔ ∃ d, Passes s.files r config d) ∧
    (validated ⟨r.input, false⟩ config s = .ok 0 ↔
      (∃ code, generated r config s = .ok code) ∨ ∃ reason, generated r config s = .error (.output reason)) ∧
    ∀ reason, generated r config s = .error (.output reason) →
      ∃ path kind e, reason = .file path e ∧ path ∈ r.outputs ∧ Kind.ofPath? path = some kind := by
  refine ⟨fun _ => validated_error_iff, fun _ => validated_error_iff.trans generated_fromCheck_iff.symm,
    validated_one_iff.trans generated_refused_iff.symm,
    validated_zero_iff.trans (exists_passes_iff hschema hconfig).symm,
    validated_zero_iff.trans generated_delivered_iff.symm, fun reason h => ?_⟩
  obtain ⟨c, s', hchecked, hzero, hdeliver⟩ := deliver_of_generated_output h
  obtain ⟨path, kind, e, hfailure, hpath, hkind⟩ :=
    deliver_fails_for_file hschema hconfig hchecked hzero s' _ hdeliver
  exact ⟨path, kind, e, Failure.output.inj hfailure, hpath, hkind⟩

/-! ## A session -/

/-- The text of a document: one controller with a button. -/
def simpleText : String :=
  "\x7b\"profiles\":\x7b\"/interaction_profiles/khr/simple_controller\":\x7b\"title\":\"Simple Controller\","
    ++ "\"type\":\"simple\",\"monado_device\":\"XRT_DEVICE_SIMPLE_CONTROLLER\","
    ++ "\"subaction_paths\":[\"/user/hand/left\",\"/user/hand/right\"],"
    ++ "\"subpaths\":\x7b\"/input/select\":\x7b\"type\":\"button\",\"localized_name\":\"Select\","
    ++ "\"components\":[\"click\"],"
    ++ "\"monado_bindings\":\x7b\"click\":\"XRT_INPUT_SIMPLE_SELECT_CLICK\"\x7d\x7d\x7d\x7d\x7d\x7d"

/-- A session with the file of the document and nothing else. -/
def simpleSession : Session := .start ⟨[(["bindings.json"], .file simpleText.toUTF8)], []⟩

/-- Either artifact is asked for, the header in a directory that is not there. -/
def simpleRequest : GenerateRequest :=
  ⟨⟨"bindings.json", none, none⟩, ["generated_bindings.c", "include/generated_bindings.h"], false⟩

set_option maxRecDepth 4000 in
theorem read_simpleText : Json.read simpleText = .ok simpleValue := by
  -- The characters are taken from the literals, and not decoded from their bytes.
  have hpieces : ∀ a b c d e f : List Char, (String.ofList a ++ String.ofList b ++ String.ofList c
      ++ String.ofList d ++ String.ofList e ++ String.ofList f).toList = a ++ b ++ c ++ d ++ e ++ f := by
    simp
  have htoList : simpleText.toList = _ := hpieces _ _ _ _ _ _
  have hvalue : Json.readValue Json.depthLimit simpleText.toList = .ok (simpleValue, []) := by
    rw [htoList]
    rfl
  rw [Json.read, hvalue]
  rfl

theorem hasValue_simpleSession : HasValue simpleSession.files "bindings.json" simpleValue := by
  have hfile : ∀ bytes : ByteArray,
      (⟨[(["bindings.json"], .file bytes)], []⟩ : Tree).read "bindings.json" = .ok bytes := fun _ => rfl
  have hread : simpleSession.files.read "bindings.json" = .ok simpleText.toUTF8 := hfile _
  refine ⟨simpleText, hasText_of_read hread, ?_⟩
  have hformat : DocumentFormat.ofPath "bindings.json" = .json := rfl
  rw [hformat, DocumentFormat.read, read_simpleText]
  rfl

theorem checked_simpleSession :
    ∃ c, checked simpleRequest.input .standard simpleSession = .ok c ∧ c.errorCount = 0 := by
  obtain ⟨d, hread, hsound⟩ : ∃ d, Document.read simpleValue = .ok d ∧
      ∀ i ∈ Check.issues d Config.standard.pathsPerTemplate, i.isError = false := ⟨_, rfl, by decide +kernel⟩
  refine ⟨⟨d, _, []⟩, checked_eq_ok_iff.mpr ⟨?_, rfl, rfl⟩, errorCount_eq_zero_iff.mpr ⟨hsound, rfl⟩⟩
  exact ⟨simpleValue, .builtIn, hasValue_simpleSession, rfl,
    Schema.check_builtIn_eq_ok_iff.mpr violations_simpleValue, hread⟩

/-- The document passes, so that generating does not refuse it. -/
theorem validated_simpleSession :
    simpleRequest.input.schemaDirectory = none ∧ Config.standard.Valid ∧
      validated ⟨simpleRequest.input, false⟩ .standard simpleSession = .ok 0 ∧
      ∃ d, Passes simpleSession.files simpleRequest .standard d := by
  obtain ⟨c, hchecked, hzero⟩ := checked_simpleSession
  have hcode : validated ⟨simpleRequest.input, false⟩ .standard simpleSession = .ok 0 :=
    validated_zero_iff.mpr ⟨c, hchecked, hzero⟩
  obtain ⟨-, -, -, hpasses, -⟩ :=
    validated_predicts_generated simpleRequest .standard simpleSession rfl Artifact.valid_standard
  exact ⟨rfl, Artifact.valid_standard, hcode, hpasses.mp hcode⟩

end ProfileBindings.Command
