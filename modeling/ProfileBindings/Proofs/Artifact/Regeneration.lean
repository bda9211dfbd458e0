import ProfileBindings.Proofs.Artifact.Failure
import ProfileBindings.Proofs.Artifact.Update

/-!
# Outputs that are written again

An update that has written its outputs leaves all of them up to date, however often and under whatever names a
file was among them. Nothing is left to be done after it: the next update, whether it writes or compares, finds
every output as it should be. And to compare beforehand tells which files an update is going to change.

* `currentReport` : the report of a path that needs no work.

Main statement: `update_exact_idempotent`.
-/

namespace ProfileBindings.Output

open Artifact (Kind simpleDocument)
open Files (Tree)
open Session (outcome)

variable {config : Config} {d : Document} {paths : List String} {path text : String}
  {rendered : List (Kind × String)} {s s' : Session}

/-- The report of a path that needs no work. -/
def currentReport (path : String) : Report :=
  ⟨path, Kind.ofPath? path, if (Kind.ofPath? path).isSome then .unchanged else .skipped⟩

/-! ## Paths that need no work -/

theorem update_of_current (mode : Mode) (h : s.files.read path = .ok text.toUTF8) :
    ∃ s', outcome (update mode path text) s = (.ok .unchanged, s') ∧ s'.files = s.files := by
  rw [update_eq, Session.outcome_bind_of_ok (Session.outcome_readBytes path s), h]
  exact settle_of_current mode path rfl s

/-- The artifacts of paths are rendered, and their files hold them. -/
def Current (t : Tree) (rendered : List (Kind × String)) (paths : List String) : Prop :=
  ∀ path ∈ paths, ∀ kind, Kind.ofPath? path = some kind →
    ∃ text, artifactFor rendered path = some text ∧ t.read path = .ok text.toUTF8

theorem Renders.exists_artifactFor (h : Renders config d (kindsOf paths) rendered) (hpath : path ∈ paths)
    {kind : Kind} (hkind : Kind.ofPath? path = some kind) : ∃ text, artifactFor rendered path = some text := by
  obtain ⟨text, htext⟩ := exists_renders_iff.mp ⟨rendered, h⟩ path hpath kind hkind
  exact ⟨text, (h.artifactFor_eq_some_iff hpath).mpr ⟨kind, hkind, htext⟩⟩

theorem Renders.artifactFor_eq_none_iff (h : Renders config d (kindsOf paths) rendered) (hpath : path ∈ paths) :
    artifactFor rendered path = none ↔ Kind.ofPath? path = none := by
  cases hkind : Kind.ofPath? path with
  | none => simp [artifactFor, hkind]
  | some kind =>
    obtain ⟨text, htext⟩ := h.exists_artifactFor hpath hkind
    simp [htext]

theorem updatePath_of_current (mode : Mode) (h : Current s.files rendered [path]) :
    ∃ s', outcome (updatePath mode rendered path) s = (.ok (currentReport path), s') ∧ s'.files = s.files := by
  rw [updatePath_eq, currentReport]
  cases hkind : Kind.ofPath? path with
  | none =>
    have hnone : artifactFor rendered path = none := by rw [artifactFor, hkind, Option.bind_none]
    rw [hnone]
    exact ⟨{ s with events := s.events ++ [.outputSkipped path] }, rfl, rfl⟩
  | some kind =>
    obtain ⟨text, htext, hread⟩ := h path List.mem_cons_self kind hkind
    obtain ⟨s', hs', hfiles⟩ := update_of_current mode hread
    rw [htext]
    exact ⟨s', Session.outcome_bind_of_ok hs', hfiles⟩

theorem updatePaths_of_current (mode : Mode) (h : Current s.files rendered paths) :
    ∃ s', outcome (paths.mapM (updatePath mode rendered)) s = (.ok (paths.map currentReport), s') ∧
      s'.files = s.files := by
  induction paths generalizing s with
  | nil => exact ⟨s, rfl, rfl⟩
  | cons path paths ih =>
    obtain ⟨s₁, hs₁, hfiles₁⟩ := updatePath_of_current mode fun q hq =>
      h q (List.mem_cons.mpr (Or.inl (List.mem_singleton.mp hq)))
    -- The first path has changed no file, so that the others still need no work.
    obtain ⟨s₂, hs₂, hfiles₂⟩ := ih (s := s₁) fun q hq => by
      rw [hfiles₁]
      exact h q (List.mem_cons_of_mem path hq)
    refine ⟨s₂, ?_, hfiles₂.trans hfiles₁⟩
    rw [List.mapM_cons, Session.outcome_bind_of_ok hs₁, Session.outcome_bind_of_ok hs₂]
    rfl

/-- An update of outputs that need no work does none. -/
theorem updateAll_of_delivered (mode : Mode) (h : ∀ path ∈ paths, Delivered config d s.files path) :
    ∃ s', outcome (updateAll mode config d paths) s = (.ok (paths.map currentReport), s') ∧
      s'.files = s.files := by
  have hrenders : ∃ rendered, Renders config d (kindsOf paths) rendered := by
    refine exists_renders_iff.mpr fun path hpath kind hkind => ?_
    obtain ⟨text, htext, -⟩ := h path hpath kind hkind
    exact ⟨text, htext⟩
  rcases (finds_renderAll config d paths).found_or_failed s with
    ⟨rendered, s₁, hs₁, hrendered, hfiles₁⟩ | ⟨_, _, _, hnone, _⟩
  · have hcurrent : Current s₁.files rendered paths := by
      intro path hpath kind hkind
      obtain ⟨text, htext, hread⟩ := h path hpath kind hkind
      rw [hfiles₁]
      exact ⟨text, (hrendered.artifactFor_eq_some_iff hpath).mpr ⟨kind, hkind, htext⟩, hread⟩
    obtain ⟨s₂, hs₂, hfiles₂⟩ := updatePaths_of_current mode hcurrent
    exact ⟨s₂, (Session.outcome_bind_of_ok hs₁).trans hs₂, hfiles₂.trans hfiles₁⟩
  · obtain ⟨rendered, hrendered⟩ := hrenders
    exact (hnone rendered hrendered).elim

/-! ## Comparing beforehand -/

/-- A path is found stale exactly if an update that writes changes its file. -/
theorem stale_iff_changes {t t' : Tree} {status : Status} (hrenders : Renders config d (kindsOf paths) rendered)
    (hpath : path ∈ paths) (hholds : Holds t' rendered path) (h : Checks t rendered path status) :
    status = .stale ↔ (Kind.ofPath? path).isSome = true ∧ t'.read path ≠ t.read path := by
  rw [h.eq_stale_iff]
  constructor
  · rintro ⟨text, htext, hstale⟩
    obtain ⟨kind, hkind, -⟩ := Option.bind_eq_some_iff.mp htext
    rw [hholds text htext, hkind]
    exact ⟨rfl, hstale.read_ne.symm⟩
  · rintro ⟨hsome, hchanges⟩
    obtain ⟨kind, hkind⟩ := Option.isSome_iff_exists.mp hsome
    obtain ⟨text, htext⟩ := hrenders.exists_artifactFor hpath hkind
    refine ⟨text, htext, ?_⟩
    have hread : t.CanRead path := exists_checks_iff.mp ⟨status, h⟩ text htext
    refine ((canRead_iff text).mp hread).resolve_left fun hcurrent => ?_
    exact hchanges ((hholds text htext).trans hcurrent.symm)

/-- Where an update that writes succeeds, comparing beforehand succeeds, too. -/
theorem exists_reports_of_advances {t t' : Tree} (h : Advances .write rendered t paths t') :
    ∃ found, Reports t rendered paths found := by
  refine exists_reports_iff.mpr fun path hpath text htext => ?_
  have hready : Ready t rendered path := h.touches.ready_iff.mp (h.holds rfl path hpath).ready
  exact (hready text htext).canRead

/-! ## The whole update -/

/-- Writing outputs is exact and idempotent, and comparing them beforehand foretells it. To compare changes
nothing. An update that writes and comes back with reports has one for each path, in their order, which says
that the path is passed over exactly if it asks for no artifact. Every path has its artifact then, all other
files are as they were, and another update finds nothing to do, in either mode. Had the outputs been compared
before, exactly those would have been found stale whose files the update has changed. -/
theorem update_exact_idempotent (config : Config) (d : Document) (paths : List String) (s : Session) :
    (outcome (updateAll .check config d paths) s).2.files = s.files ∧
    ∀ reports s', outcome (updateAll .write config d paths) s = (.ok reports, s') →
      List.Forall₂ (fun path report => report.path = path ∧ report.kind = Kind.ofPath? path ∧
        report.status ≠ .stale ∧ (report.status = .skipped ↔ Kind.ofPath? path = none)) paths reports ∧
      (∀ path ∈ paths, Delivered config d s'.files path) ∧
      Spares paths s.files s'.files ∧
      (∀ mode, ∃ s'', outcome (updateAll mode config d paths) s' = (.ok (paths.map currentReport), s'') ∧
        s''.files = s'.files) ∧
      ∃ found, (outcome (updateAll .check config d paths) s).1 = .ok found ∧
        List.Forall₂ (fun path report => report.path = path ∧ report.kind = Kind.ofPath? path ∧
          (report.status = .stale ↔
            (Kind.ofPath? path).isSome = true ∧ s'.files.read path ≠ s.files.read path)) paths found := by
  refine ⟨(finds_updateAll_check config d paths).keeps s, fun reports s' h => ?_⟩
  obtain ⟨rendered, hrenders, hanswers, hadvances⟩ := updateAll_ok Session.faithful h
  have hdelivered : ∀ path ∈ paths, Delivered config d s'.files path := fun path hpath =>
    (hadvances.holds rfl path hpath).delivered hrenders hpath
  refine ⟨?_, hdelivered, hadvances.touches.spares, fun mode => updateAll_of_delivered mode hdelivered, ?_⟩
  · refine ((List.forall₂_and_left _ _).mpr ⟨fun _ hpath => hpath, hanswers⟩).imp ?_
    rintro path report ⟨hpath, hanswer⟩
    exact ⟨hanswer.path_eq, hanswer.kind_eq, hanswer.not_stale rfl,
      hanswer.skipped_iff.trans (hrenders.artifactFor_eq_none_iff hpath)⟩
  · obtain ⟨found, hfound⟩ := exists_reports_of_advances hadvances
    refine ⟨found, ((finds_updateAll_check config d paths).finds s found).mpr ⟨rendered, hrenders, hfound⟩, ?_⟩
    refine ((List.forall₂_and_left _ _).mpr ⟨fun _ hpath => hpath, hfound⟩).imp ?_
    rintro path report ⟨hpath, hreport, hkind, hchecks⟩
    exact ⟨hreport, hkind, stale_iff_changes hrenders hpath (hadvances.holds rfl path hpath) hchecks⟩

/-- Outputs of the small document: the source under two names, a path that asks for nothing, and the header. -/
def simpleOutputs : List String :=
  ["generated_bindings.c", "./generated_bindings.c", "notes.txt", "generated_bindings.h"]

/-- A directory with an old source and some notes. -/
def simpleTree : Tree :=
  ⟨[(["generated_bindings.c"], .file "old".toUTF8), (["notes.txt"], .file "keep".toUTF8)], []⟩

/-- The outputs of the small document are written, the notes are kept, and another update finds nothing to do. -/
theorem update_exact_simpleDocument :
    ∃ reports s', outcome (updateAll .write .standard simpleDocument simpleOutputs) (.start simpleTree) =
        (.ok reports, s') ∧
      (∀ path ∈ simpleOutputs, Delivered .standard simpleDocument s'.files path) ∧
      s'.files.get? ["notes.txt"] = some (.file "keep".toUTF8) ∧
      ∃ s'', outcome (updateAll .write .standard simpleDocument simpleOutputs) s' =
        (.ok [⟨"generated_bindings.c", some .source, .unchanged⟩,
          ⟨"./generated_bindings.c", some .source, .unchanged⟩, ⟨"notes.txt", none, .skipped⟩,
          ⟨"generated_bindings.h", some .header, .unchanged⟩], s'') := by
  have hrenders : ∃ rendered, Renders .standard simpleDocument (kindsOf simpleOutputs) rendered := by
    refine exists_renders_iff.mpr fun _ _ kind _ => Artifact.exists_render_iff.mpr ?_
    exact ⟨Artifact.valid_standard, by simp [simpleDocument], fun _ => by decide⟩
  have hready : ∀ path ∈ simpleOutputs, simpleTree.CanWrite path := by
    simp only [simpleOutputs, List.forall_mem_cons]
    refine ⟨⟨_, rfl, ?_⟩, ⟨_, rfl, ?_⟩, ⟨_, rfl, ?_⟩, ⟨_, rfl, ?_⟩, by simp⟩
    all_goals
      intro hdirectory
      cases hdirectory
  rcases updateAll_write .standard simpleDocument simpleOutputs (.start simpleTree) with
    ⟨_, reports, s', hs', -⟩ | ⟨_, _, _, ⟨hnone, -⟩ | ⟨_, -, ⟨path, hpath, hnot⟩, -⟩⟩
  · obtain ⟨-, hdelivered, hspares, hagain, -⟩ :=
      (update_exact_idempotent .standard simpleDocument simpleOutputs (.start simpleTree)).2 reports s' hs'
    obtain ⟨s'', hs'', -⟩ := hagain .write
    refine ⟨reports, s', hs', hdelivered, (hspares _ fun q hq hselects => ?_).trans rfl, s'', hs''⟩
    revert q
    decide
  · exact absurd hrenders hnone
  · exact absurd (fun _ _ => hready path hpath) hnot

end ProfileBindings.Output
