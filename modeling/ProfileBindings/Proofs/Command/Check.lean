import ProfileBindings.Command.Check
import ProfileBindings.Proofs.Artifact.Assembly
import ProfileBindings.Proofs.Session.Outcome

/-!
# What a check finds

Loading and checking a document looks at files and changes none. What is found is told by the texts of the
files, here as relations between a tree of files and what is found in it.

* `HasText` : a file holds a text;
* `HasValue`, `HasSchema`, `HasModel` : what the files of an input hold;
* `HasUnknown` : the enumerators that the header of an input does not declare.

Main statement: `finds_check`.
-/

namespace ProfileBindings.Command

open Files (Tree)
open Session (Finds)

/-- A file holds a text. -/
def HasText (t : Tree) (path text : String) : Prop := (t.read path).bind Host.textOf = .ok text

/-- A file holds the text of a value. -/
def HasValue (t : Tree) (path : String) (v : Json) : Prop :=
  ∃ text, HasText t path text ∧ (DocumentFormat.ofPath path).read text = .ok v

/-- The schema to check against: the built-in one, or that of a directory. -/
def HasSchema (t : Tree) (directory : Option String) (validator : Validator) : Prop :=
  match directory with
  | none => validator = .builtIn
  | some directory =>
    let path := Path.join directory Validator.fileName
    ∃ text schema, HasText t path text ∧ Json.read text = .ok schema ∧ validator = .loaded path schema

/-- The document of an input has the right shape and a model. -/
def HasModel (t : Tree) (input : Input) (d : Document) : Prop :=
  ∃ v validator, HasValue t input.document v ∧ HasSchema t input.schemaDirectory validator ∧
    validator.check v = .ok () ∧ Document.read v = .ok d

/-- The enumerators that the header of an input does not declare; none if there is no header. -/
def HasUnknown (t : Tree) (input : Input) (config : Config) (d : Document) (unknown : List Header.Unknown) :
    Prop :=
  match input.header with
  | none => unknown = []
  | some path => ∃ text, HasText t path text ∧
    unknown = Header.unknown (Header.declared text) (.ofDocument d config.extraInputs)

variable {ε α : Type}

/-- Go on with the text of a file, or fail if there is none. -/
theorem finds_withText {fail : Files.Error → ε} {next : String → ExceptT ε (StateM Session) α}
    {found : String → Tree → α → Prop} (path : String) (h : ∀ text, Finds (next text) (found text)) :
    Finds (Host.readText path >>= fun r =>
        match r with
        | .error reason => throw (fail reason)
        | .ok text => next text) fun t a => ∃ text, HasText t path text ∧ found text t a := by
  have hnext : ∀ r : Except Files.Error String, Finds (match r with
      | .error reason => throw (fail reason)
      | .ok text => next text) fun t a => ∃ text, r = .ok text ∧ found text t a := by
    intro r
    cases r with
    | error reason => exact (Finds.throw (fail reason)).congr fun _ _ => by simp
    | ok text => exact (h text).congr fun _ _ => by simp
  refine ((Finds.readText path).bind hnext).congr fun t a => ?_
  simp only [exists_eq_left, HasText, eq_comm]

theorem finds_loadDocument (path : String) :
    Finds (Document.load path : ExceptT Document.LoadError (StateM Session) Json)
      fun t v => HasValue t path v := by
  refine (finds_withText path fun text =>
    (Finds.record (.documentRead path _ text.utf8ByteSize)).bind fun _ => Finds.lift _).congr fun t v => ?_
  simp [HasValue, mapError_eq_ok_iff]

theorem finds_loadHeader (path : String) :
    Finds (Header.load path : ExceptT Header.LoadError (StateM Session) EnumeratorNames) fun t known =>
      ∃ text, HasText t path text ∧ known = Header.declared text := by
  refine (finds_withText path fun text =>
    (Finds.record (.headerScanned path _ _)).bind fun _ => Finds.pure _).congr fun t known => ?_
  simp

theorem finds_loadSchema (directory : String) :
    Finds (Validator.load directory : ExceptT Validator.LoadError (StateM Session) Validator)
      fun t validator => HasSchema t (some directory) validator := by
  refine (finds_withText _ fun text => (Finds.lift _).bind fun schema =>
    (Finds.record (.schemaLoaded _)).bind fun _ => Finds.pure (Validator.loaded _ schema)).congr
      fun t validator => ?_
  simp [HasSchema, mapError_eq_ok_iff]

theorem finds_loadValidator (input : Input) :
    Finds (loadValidator input : Action (StateM Session) Validator) fun t validator =>
      HasSchema t input.schemaDirectory validator := by
  unfold loadValidator
  cases input.schemaDirectory with
  | none => exact Finds.pure _
  | some directory => exact (finds_loadSchema directory).adapt _

theorem finds_loadModel (input : Input) :
    Finds (loadModel input : Action (StateM Session) Document) fun t d => HasModel t input d := by
  refine (((finds_loadDocument input.document).adapt _).bind fun v =>
    (finds_loadValidator input).bind fun validator =>
      (Finds.lift _).bind fun _ => Finds.lift _).congr fun t d => ?_
  simp only [HasModel, mapError_eq_ok_iff]
  constructor
  · rintro ⟨v, hv, validator, hvalidator, _, hshape, hmodel⟩
    exact ⟨v, validator, hv, hvalidator, hshape, hmodel⟩
  · rintro ⟨v, validator, hv, hvalidator, hshape, hmodel⟩
    exact ⟨v, hv, validator, hvalidator, (), hshape, hmodel⟩

theorem finds_findUnknown (input : Input) (config : Config) (d : Document) :
    Finds (findUnknown input config d : Action (StateM Session) _) fun t unknown =>
      HasUnknown t input config d unknown := by
  unfold findUnknown HasUnknown
  cases input.header with
  | none => exact Finds.pure _
  | some path =>
    refine (((finds_loadHeader path).adapt _).bind fun known =>
      show Finds _ fun _ unknown => unknown = Header.unknown known (.ofDocument d config.extraInputs) from ?_).congr
        fun t unknown => ?_
    · dsimp only
      split
      · exact ((Finds.record _).bind fun _ => Finds.pure _).congr fun _ _ => by simp
      · exact Finds.pure _
    · constructor
      · rintro ⟨_, ⟨text, htext, rfl⟩, rfl⟩
        exact ⟨text, htext, rfl⟩
      · rintro ⟨text, htext, rfl⟩
        exact ⟨_, ⟨text, htext, rfl⟩, rfl⟩

/-- A check finds the model of a document, what is wrong with it, and what is unknown. -/
theorem finds_check (input : Input) (config : Config) :
    Finds (check input config : Action (StateM Session) Checked) fun t c =>
      HasModel t input c.model ∧ c.issues = Check.issues c.model config.pathsPerTemplate ∧
        HasUnknown t input config c.model c.unknown := by
  refine ((finds_loadModel input).bind fun d => (finds_findUnknown input config d).bind fun unknown =>
    (Finds.record _).bind fun _ =>
      Finds.pure (Checked.mk d (Check.issues d config.pathsPerTemplate) unknown)).congr fun t c => ?_
  constructor
  · rintro ⟨d, hd, unknown, hunknown, -, -, rfl⟩
    exact ⟨hd, rfl, hunknown⟩
  · rintro ⟨hd, hissues, hunknown⟩
    refine ⟨c.model, hd, c.unknown, hunknown, (), trivial, ?_⟩
    rw [← hissues]

/-- Findings are put into the log, and into no file. -/
theorem finds_report (c : Checked) :
    Finds (report c : Action (StateM Session) Unit) fun _ _ => True := by
  refine ((Finds.forM (fun _ => Finds.record _) c.issues).bind fun _ =>
    Finds.forM (fun _ => Finds.record _) c.unknown).congr fun _ _ => ?_
  simp

end ProfileBindings.Command
