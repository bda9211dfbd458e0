import ProfileBindings.Proofs.Artifact.Failure
import ProfileBindings.Proofs.Command.Generate
import ProfileBindings.Proofs.Session.Failure

/-!
# How commands fail

A failure tells where a command has stopped: while the document was read and checked, at the gate, or at the
outputs.

* `Failure.FromCheck` : the document could not be read and checked;
* `Output.Fails` : what outputs can fail for.

Main statements:
* `failsOnly_check` and `failsOnly_updateAll` : each part fails in its own way;
* `generated_cases` : the three ways that the command that generates can take;
* `generated_fromCheck_iff`, `generated_refused_iff` and `generated_delivered_iff` : what the check tells of them.
-/

namespace ProfileBindings

open Artifact (Kind)
open Session (FailsOnly Finds outcome)

/-! ## Outputs -/

namespace Output

variable {config : Config} {d : Document} {paths : List String}

/-- What outputs can fail for: an artifact that is asked for cannot be rendered, or the file of a path that
receives an artifact can not be read or written. -/
inductive Fails (config : Config) (d : Document) (paths : List String) : Error → Prop where
  | render {kind : Kind} {reason : Artifact.Error} (hrender : Artifact.render kind config d = .error reason) :
    Fails config d paths (.render reason)
  | file {path : String} {kind : Kind} {reason : Files.Error} (hpath : path ∈ paths)
      (hkind : Kind.ofPath? path = some kind) :
    Fails config d paths (.file path reason)

/-- Outputs fail for an artifact or for a file. -/
theorem failsOnly_updateAll (mode : Mode) (config : Config) (d : Document) (paths : List String) :
    FailsOnly (updateAll mode config d paths : ExceptT Error (StateM Session) _) (Fails config d paths) := by
  intro s e he
  obtain ⟨s', h⟩ := Host.exists_outcome he
  rcases updateAll_error Session.faithful h with
    ⟨⟨reason, rfl, path, -, kind, -, hrender⟩, -⟩ | ⟨earlier, path, later, rfl, hstops⟩
  · exact .render hrender
  · obtain ⟨rendered, -, -, -, ⟨text, htext⟩, reason, rfl⟩ := hstops.advances Session.faithful
    obtain ⟨kind, hkind, -⟩ := Option.bind_eq_some_iff.mp htext
    exact .file (List.mem_append_right _ List.mem_cons_self) hkind

end Output

/-! ## Checks -/

namespace Command

/-- The failure is that the document could not be read and checked. -/
def Failure.FromCheck : Failure → Prop
  | .document _ _ | .schema _ | .shape _ _ | .model _ _ | .header _ _ => True
  | .config _ _ | .refused _ _ | .output _ => False

variable {r : GenerateRequest} {config : Config} {s : Session}

/-- Whatever the reason behind it is, the failure is of a kind. -/
theorem failsOnly_adapt {ε α : Type} {action : ExceptT ε (StateM Session) α} {f : ε → Failure}
    {reason : Failure → Prop} (h : ∀ e, reason (f e)) : FailsOnly (ExceptT.adapt f action) reason :=
  FailsOnly.adapt fun _ e _ => h e

theorem failsOnly_mapError {ε α : Type} {x : Except ε α} {f : ε → Failure} {reason : Failure → Prop}
    (h : ∀ e, reason (f e)) : FailsOnly (liftM (x.mapError f) : Action (StateM Session) α) reason := by
  refine FailsOnly.lift fun e he => ?_
  obtain ⟨e', -, rfl⟩ := mapError_eq_error_iff.mp he
  exact h e'

theorem failsOnly_loadModel (input : Input) :
    FailsOnly (loadModel input : Action (StateM Session) Document) Failure.FromCheck := by
  refine (failsOnly_adapt fun _ => trivial).bind fun v => FailsOnly.bind ?_ fun validator =>
    (failsOnly_mapError fun _ => trivial).bind fun _ => failsOnly_mapError fun _ => trivial
  unfold loadValidator
  cases input.schemaDirectory with
  | none => exact FailsOnly.pure _
  | some directory => exact failsOnly_adapt fun _ => trivial

theorem failsOnly_findUnknown (input : Input) (config : Config) (d : Document) :
    FailsOnly (findUnknown input config d : Action (StateM Session) _) Failure.FromCheck := by
  unfold findUnknown
  cases input.header with
  | none => exact FailsOnly.pure _
  | some path =>
    refine (failsOnly_adapt fun _ => trivial).bind fun known => ?_
    dsimp only
    split
    · exact (FailsOnly.record _).bind fun _ => FailsOnly.pure _
    · exact FailsOnly.pure _

theorem failsOnly_check (input : Input) (config : Config) :
    FailsOnly (check input config : Action (StateM Session) Checked) Failure.FromCheck :=
  (failsOnly_loadModel input).bind fun d => (failsOnly_findUnknown input config d).bind fun _ =>
    (FailsOnly.record _).bind fun _ => FailsOnly.pure _

/-! ## Generating -/

theorem failsOnly_deliver (r : GenerateRequest) (config : Config) (d : Document) :
    FailsOnly (deliver r config d : Action (StateM Session) Nat) fun failure =>
      ∃ reason, failure = .output reason ∧ Output.Fails config d r.outputs reason := by
  have houtputs : FailsOnly (ExceptT.adapt Failure.output
      (Output.updateAll r.mode config d r.outputs : ExceptT _ (StateM Session) _)) fun failure =>
        ∃ reason, failure = .output reason ∧ Output.Fails config d r.outputs reason :=
    FailsOnly.adapt fun s e he => ⟨e, rfl, Output.failsOnly_updateAll r.mode config d r.outputs s e he⟩
  exact houtputs.bind fun _ => (FailsOnly.forM fun _ _ => FailsOnly.say _).bind fun _ => FailsOnly.pure _

/-- What a check gives, or the reason why it gives nothing. -/
def checked (input : Input) (config : Config) (s : Session) : Except Failure Checked :=
  (outcome (check input config) s).1

theorem checked_eq_ok_iff {input : Input} {c : Checked} : checked input config s = .ok c ↔
    HasModel s.files input c.model ∧ c.issues = Check.issues c.model config.pathsPerTemplate ∧
      HasUnknown s.files input config c.model c.unknown :=
  (finds_check input config).finds s c

/-- Without findings, the gate is not reached. -/
theorem outcome_gate_of_error {failure : Failure} (hchecked : checked r.input config s = .error failure) :
    ∃ s', outcome (gate r config) s = (.error failure, s') := by
  have hcheck : outcome (check r.input config) s = (.error failure, (outcome (check r.input config) s).2) :=
    Prod.ext hchecked rfl
  exact ⟨_, Session.outcome_bind_of_error hcheck⟩

/-- Findings that were reported are refused at the gate, if one of them is an error. -/
theorem outcome_gate_of_ok {c : Checked} (hchecked : checked r.input config s = .ok c) :
    ∃ s', s'.files = s.files ∧ outcome (gate r config) s =
      (if c.errorCount = 0 then .ok c.model else .error (.refused r.input.document c.errorCount), s') := by
  rcases (finds_check r.input config).found_or_failed s with ⟨c', s₁, hs₁, -, hfiles₁⟩ | ⟨e, s₁, hs₁, -⟩
  · obtain rfl : c' = c := Except.ok.inj ((congrArg Prod.fst hs₁).symm.trans hchecked)
    rcases (finds_report c').found_or_failed s₁ with ⟨_, s₂, hs₂, -, hfiles₂⟩ | ⟨_, _, _, hnone, _⟩
    · refine ⟨s₂, hfiles₂.trans hfiles₁, ?_⟩
      rw [gate, Session.outcome_bind_of_ok hs₁, Session.outcome_bind_of_ok hs₂]
      by_cases hzero : c'.errorCount = 0
      · rw [if_neg (not_not.mpr hzero), if_pos hzero]
        rfl
      · rw [if_pos hzero, if_neg hzero, Output.throw_bind]
        rfl
    · exact (hnone () trivial).elim
  · have herror : checked r.input config s = .error e := congrArg Prod.fst hs₁
    rw [herror] at hchecked
    contradiction

/-- The command stops while it checks, or at its gate, or goes on with a document without errors. -/
theorem generated_cases (r : GenerateRequest) (config : Config) (s : Session) :
    (∃ failure, checked r.input config s = .error failure ∧ failure.FromCheck ∧
      generated r config s = .error failure) ∨
    (∃ c, checked r.input config s = .ok c ∧ c.errorCount ≠ 0 ∧
      generated r config s = .error (.refused r.input.document c.errorCount)) ∨
    ∃ c s', checked r.input config s = .ok c ∧ c.errorCount = 0 ∧ s'.files = s.files ∧
      generated r config s = (outcome (deliver r config c.model) s').1 := by
  unfold generated
  rw [generate_eq]
  cases hchecked : checked r.input config s with
  | error failure =>
    refine .inl ⟨failure, rfl, failsOnly_check r.input config s failure hchecked, ?_⟩
    obtain ⟨s', hgate⟩ := outcome_gate_of_error hchecked
    rw [Session.outcome_bind_of_error hgate]
  | ok c =>
    obtain ⟨s', hfiles, hgate⟩ := outcome_gate_of_ok hchecked
    by_cases hzero : c.errorCount = 0
    · rw [if_pos hzero] at hgate
      refine .inr (.inr ⟨c, s', rfl, hzero, hfiles, ?_⟩)
      rw [Session.outcome_bind_of_ok hgate]
    · rw [if_neg hzero] at hgate
      refine .inr (.inl ⟨c, rfl, hzero, ?_⟩)
      rw [Session.outcome_bind_of_error hgate]

/-- Generating stops while it checks exactly if there is nothing to go on with. -/
theorem generated_fromCheck_iff {failure : Failure} :
    generated r config s = .error failure ∧ failure.FromCheck ↔ checked r.input config s = .error failure := by
  rcases generated_cases r config s with ⟨failure', hchecked, hfrom, hgenerated⟩ |
    ⟨c, hchecked, -, hgenerated⟩ | ⟨c, s', hchecked, -, -, hgenerated⟩
  · rw [hchecked, hgenerated]
    constructor
    · rintro ⟨h, -⟩
      exact congrArg Except.error (Except.error.inj h)
    · intro h
      obtain rfl := Except.error.inj h
      exact ⟨rfl, hfrom⟩
  · rw [hchecked, hgenerated]
    refine iff_of_false ?_ (by simp)
    rintro ⟨h, hfrom⟩
    obtain rfl := Except.error.inj h
    exact hfrom
  · rw [hchecked]
    refine iff_of_false ?_ (by simp)
    rintro ⟨h, hfrom⟩
    obtain ⟨reason, rfl, -⟩ := failsOnly_deliver r config c.model s' failure (hgenerated ▸ h)
    exact hfrom

/-- Generating refuses exactly if there is an error among the findings. -/
theorem generated_refused_iff :
    (∃ errors, generated r config s = .error (.refused r.input.document errors)) ↔
      ∃ c, checked r.input config s = .ok c ∧ c.errorCount ≠ 0 := by
  rcases generated_cases r config s with ⟨failure, hchecked, hfrom, hgenerated⟩ |
    ⟨c, hchecked, herrors, hgenerated⟩ | ⟨c, s', hchecked, hzero, -, hgenerated⟩
  · refine iff_of_false ?_ (by simp [hchecked])
    rintro ⟨errors, h⟩
    obtain rfl := Except.error.inj (hgenerated.symm.trans h)
    exact hfrom
  · exact iff_of_true ⟨_, hgenerated⟩ ⟨c, hchecked, herrors⟩
  · refine iff_of_false ?_ (by simp [hchecked, hzero])
    rintro ⟨errors, h⟩
    obtain ⟨reason, hfailure, -⟩ := failsOnly_deliver r config c.model s' _ (hgenerated ▸ h)
    contradiction

/-- Generating gets to its outputs exactly if there is no error among the findings. -/
theorem generated_delivered_iff :
    ((∃ code, generated r config s = .ok code) ∨ ∃ reason, generated r config s = .error (.output reason)) ↔
      ∃ c, checked r.input config s = .ok c ∧ c.errorCount = 0 := by
  rcases generated_cases r config s with ⟨failure, hchecked, hfrom, hgenerated⟩ |
    ⟨c, hchecked, herrors, hgenerated⟩ | ⟨c, s', hchecked, hzero, -, hgenerated⟩
  · refine iff_of_false ?_ (by simp [hchecked])
    rw [hgenerated]
    rintro (⟨code, h⟩ | ⟨reason, h⟩)
    · contradiction
    · obtain rfl := Except.error.inj h
      exact hfrom
  · exact iff_of_false (by simp [hgenerated]) (by simp [hchecked, herrors])
  · refine iff_of_true ?_ ⟨c, hchecked, hzero⟩
    cases hresult : generated r config s with
    | ok code => exact Or.inl ⟨code, rfl⟩
    | error failure =>
      obtain ⟨reason, rfl, -⟩ := failsOnly_deliver r config c.model s' failure (hgenerated ▸ hresult)
      exact Or.inr ⟨reason, rfl⟩

/-- What goes wrong at the outputs goes wrong with a document that has no errors. -/
theorem deliver_of_generated_output {reason : Output.Error} (h : generated r config s = .error (.output reason)) :
    ∃ c s', checked r.input config s = .ok c ∧ c.errorCount = 0 ∧
      (outcome (deliver r config c.model) s').1 = .error (.output reason) := by
  rcases generated_cases r config s with ⟨failure, -, hfrom, hgenerated⟩ | ⟨c, -, -, hgenerated⟩ |
    ⟨c, s', hchecked, hzero, -, hgenerated⟩
  · obtain rfl := Except.error.inj (hgenerated.symm.trans h)
    exact hfrom.elim
  · have hfailure := Except.error.inj (hgenerated.symm.trans h)
    contradiction
  · exact ⟨c, s', hchecked, hzero, hgenerated ▸ h⟩

end Command

end ProfileBindings
