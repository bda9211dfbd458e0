import ProfileBindings.Proofs.Artifact.Failure
import ProfileBindings.Proofs.Artifact.Update

/-!
# Updates that fail

An update can fail while it renders and while it goes through the paths, there at any of them: a system may
refuse to read or to write whatever it likes, on every faithful host. What a failure leaves behind is told by
the error and by where the update stopped.

Main statement: `failed_update_keeps_prefix`.
-/

namespace ProfileBindings.Output

open Artifact (Kind simpleDocument)
open Host (outcome)

variable {σ : Type} [Host (StateM σ)] {files : σ → Files.Tree} {s s' : σ} {mode : Mode} {config : Config}
  {d : Document} {paths : List String}

/-- What an update that fails leaves behind. Files that are only compared are as they were. If an artifact cannot
be rendered, no file has changed, and an artifact that is asked for and cannot be rendered always has this
effect. If a file is refused, the update has stopped at one of the paths, one that asks for an artifact: the
files of the paths before it hold their artifacts if they were to be written, and nothing but these files has
changed. -/
theorem failed_update_keeps_prefix (hfiles : Host.Faithful files) {e : Error}
    (h : outcome (updateAll mode config d paths) s = (.error e, s')) :
    (mode = .check → files s' = files s) ∧
    (∀ reason, e = .render reason → files s' = files s ∧
      ∃ path ∈ paths, ∃ kind, Kind.ofPath? path = some kind ∧ Artifact.render kind config d = .error reason) ∧
    ((∃ path ∈ paths, ∃ kind reason, Kind.ofPath? path = some kind ∧
      Artifact.render kind config d = .error reason) → ∃ reason, e = .render reason) ∧
    (∀ path reason, e = .file path reason → ∃ earlier later, paths = earlier ++ path :: later ∧
      StopsAt mode config d paths earlier path s e s' ∧ (Kind.ofPath? path).isSome = true ∧
      (mode = .write → ∀ other ∈ earlier, Delivered config d (files s') other) ∧
      Spares earlier (files s) (files s')) := by
  refine ⟨?_, ?_⟩
  · rintro rfl
    exact files_updateAll_check hfiles h
  rcases updateAll_error hfiles h with ⟨⟨reason, rfl, hfails⟩, hkept⟩ | ⟨earlier, path, later, rfl, hstops⟩
  · refine ⟨?_, fun _ => ⟨reason, rfl⟩, fun _ _ he => by cases he⟩
    intro reason' he
    obtain rfl := Error.render.inj he
    exact ⟨hkept, hfails⟩
  · obtain ⟨rendered, hrenders, hadvances, -, ⟨text, htext⟩, reason, rfl⟩ := hstops.advances hfiles
    refine ⟨fun _ he => (by cases he), ?_, ?_⟩
    · -- All artifacts that are asked for have been rendered before the first path.
      rintro ⟨q, hq, kind, reason', hkind, hfails⟩
      obtain ⟨text', htext'⟩ := exists_renders_iff.mp ⟨rendered, hrenders⟩ q hq kind hkind
      rw [hfails] at htext'
      cases htext'
    · intro path' reason' he
      obtain ⟨rfl, rfl⟩ := Error.file.inj he
      obtain ⟨kind, hkind, -⟩ := Option.bind_eq_some_iff.mp htext
      refine ⟨earlier, later, rfl, hstops, by rw [hkind, Option.isSome_some], ?_, hadvances.touches.spares⟩
      intro hmode q hq
      exact (hadvances.holds hmode q hq).delivered hrenders (List.mem_append_left _ hq)

/-- A disk that is full. -/
def diskFull : Files.Error := .other "No space left on device (os error 28)"

/-- A session in an empty directory, on a disk that holds one more file. -/
def crampedSession : Session.Refusing := ⟨.start (.ofDirectory []), [none, none, none, some diskFull]⟩

/-- On a disk that holds one more file, the source of the small document is written and the header is refused. The
source is complete, and there is no header. -/
theorem failed_update_simpleDocument : ∃ s' : Session.Refusing,
    outcome (updateAll .write .standard simpleDocument ["generated_bindings.c", "generated_bindings.h"])
      crampedSession = (.error (.file "generated_bindings.h" diskFull), s') ∧
    Delivered .standard simpleDocument s'.files "generated_bindings.c" ∧
    s'.files.get? ["generated_bindings.h"] = none := by
  obtain ⟨source, hsource⟩ : ∃ text, Artifact.render .source .standard simpleDocument = .ok text :=
    Artifact.exists_render_iff.mpr ⟨Artifact.valid_standard, by simp [simpleDocument], fun _ => by decide⟩
  obtain ⟨header, hheader⟩ : ∃ text, Artifact.render .header .standard simpleDocument = .ok text :=
    Artifact.exists_render_iff.mpr ⟨Artifact.valid_standard, by simp [simpleDocument], fun h => by cases h⟩
  have hkinds : kindsOf ["generated_bindings.c", "generated_bindings.h"] = [.source, .header] := by decide
  obtain ⟨s', hrun⟩ : ∃ s', outcome (updateAll .write .standard simpleDocument
      ["generated_bindings.c", "generated_bindings.h"]) crampedSession =
        (.error (.file "generated_bindings.h" diskFull), s') := by
    apply Host.exists_outcome
    simp only [updateAll, renderAll, hkinds, List.mapM_cons, List.mapM_nil, render, hsource, hheader]
    rfl
  obtain ⟨-, -, -, hfile⟩ := failed_update_keeps_prefix Session.Refusing.faithful hrun
  obtain ⟨earlier, later, heq, -, -, hdelivered, hspares⟩ := hfile _ _ rfl
  -- There is only one place in the list where the header stands.
  obtain rfl : earlier = ["generated_bindings.c"] := by
    rcases earlier with _ | ⟨first, _ | ⟨second, rest⟩⟩
    · simp at heq
    · simp_all
    · simp at heq
  refine ⟨s', hrun, hdelivered rfl _ List.mem_cons_self, ?_⟩
  refine (hspares _ fun q hq _ => ?_).trans rfl
  rw [List.mem_singleton.mp hq]
  decide

end ProfileBindings.Output
