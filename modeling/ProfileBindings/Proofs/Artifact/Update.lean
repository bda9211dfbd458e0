import ProfileBindings.Proofs.Artifact.Output

/-!
# Steps of an update on a host

A host may refuse to read or to write a file at any moment. Whatever it refuses, an update changes nothing but
the files of the paths that it has gone through, and in between two steps these hold their artifacts.

* `Updates` : what comes of one file that is brought up to date;
* `Advances` : what a tree is after some paths have been gone through;
* `Answers` : what is said about a path;
* `Delivered`, `Spares` : what outputs are asked for, and what is left alone;
* `StopsAt` : an update stops at a path.

Main statements:
* `updates_update` : one file;
* `updatePath_ok`, `updatePath_error` : one path;
* `updatePaths_ok` : paths in their order;
* `updateAll_ok`, `updateAll_error` : rendering, and then the paths;
* `updateAll_write` : in a session, an update that writes fails only for a reason.
-/

namespace ProfileBindings.Output

open Artifact (Kind)
open Files (Tree)

variable {mode : Mode} {config : Config} {d : Document} {paths : List String} {path text : String}
  {rendered : List (Kind × String)}

section Hosts

open Host (outcome)

variable {σ : Type} [Host (StateM σ)] {files : σ → Tree} {s s' : σ}

/-! ## One file -/

/-- What comes of one file that is brought up to date: a result, and the tree afterwards. -/
inductive Updates (mode : Mode) (path text : String) (t : Tree) : Except Error Status → Tree → Prop
  | current (hread : t.read path = .ok text.toUTF8) : Updates mode path text t (.ok .unchanged) t
  | stale (hmode : mode = .check) : Updates mode path text t (.ok .stale) t
  | written {t' : Tree} (hmode : mode = .write) (hwrite : t.write path text.toUTF8 = .ok t') :
    Updates mode path text t (.ok .written) t'
  | refused (reason : Files.Error) : Updates mode path text t (.error (.file path reason)) t

theorem updates_settle (hfiles : Host.Faithful files) {current : Option ByteArray} {result : Except Error Status}
    (hcurrent : ∀ bytes, current = some bytes → (files s).read path = .ok bytes)
    (h : outcome (settle mode path text current) s = (result, s')) :
    Updates mode path text (files s) result (files s') := by
  unfold settle at h
  by_cases heq : current = some text.toUTF8
  · rw [if_pos (map_data_eq_some_iff.mpr heq)] at h
    obtain ⟨rfl, hkept⟩ := hfiles.of_outcome_record h
    rw [hkept]
    exact .current (hcurrent _ heq)
  · rw [if_neg fun hdata => heq (map_data_eq_some_iff.mp hdata)] at h
    cases mode with
    | check =>
      obtain ⟨rfl, hkept⟩ := hfiles.of_outcome_record h
      rw [hkept]
      exact .stale rfl
    | write =>
      rcases hfiles.outcome_writeBytes (ε := Error) path text.toUTF8 s with
        ⟨s₁, hwrite, hwritten⟩ | ⟨reason, s₁, hwrite, hkept⟩
      · rw [Host.outcome_bind_of_ok hwrite] at h
        obtain ⟨rfl, hkept⟩ := hfiles.of_outcome_record h
        rw [hkept]
        exact .written rfl hwritten
      · rw [Host.outcome_bind_of_ok hwrite] at h
        cases h
        rw [hkept]
        exact .refused reason

/-- One file is brought up to date, or the host refuses it and nothing is changed. -/
theorem updates_update (hfiles : Host.Faithful files) {result : Except Error Status}
    (h : outcome (update mode path text) s = (result, s')) :
    Updates mode path text (files s) result (files s') := by
  obtain ⟨found, s₁, hread, hkept, hfound⟩ := hfiles.outcome_readBytes (ε := Error) path s
  rw [update_eq, Host.outcome_bind_of_ok hread] at h
  rw [← hkept] at hfound ⊢
  -- A missing file is settled like one with other contents; every other refusal ends the step.
  cases found with
  | ok bytes =>
    refine updates_settle hfiles (fun bytes' heq => ?_) h
    obtain rfl := Option.some.inj heq
    exact hfound bytes rfl
  | error reason =>
    cases reason with
    | notFound => exact updates_settle hfiles (fun _ heq => by cases heq) h
    | _ =>
      cases h
      exact .refused _

theorem Updates.of_check {t t' : Tree} {result : Except Error Status}
    (h : Updates .check path text t result t') : t' = t := by
  cases h with
  | written hmode _ => cases hmode
  | _ => rfl

theorem Updates.of_write {t t' : Tree} {status : Status} (h : Updates .write path text t (.ok status) t') :
    status ≠ .stale ∧ t.Writes path text.toUTF8 t' := by
  cases h with
  | current hread => exact ⟨by decide, .of_read hread⟩
  | stale hmode => cases hmode
  | written _ hwrite => exact ⟨by decide, Tree.writes_of_write_eq_ok hwrite⟩

theorem Updates.ne_skipped {t t' : Tree} {status : Status} (h : Updates mode path text t (.ok status) t') :
    status ≠ .skipped := by
  cases h <;> decide

theorem Updates.of_error {t t' : Tree} {e : Error} (h : Updates mode path text t (.error e) t') :
    (∃ reason, e = .file path reason) ∧ t' = t := by
  cases h with
  | refused reason => exact ⟨⟨reason, rfl⟩, rfl⟩

/-! ## One path -/

/-- What a tree is after some paths have been gone through. Nothing has changed but their files: files that are
only compared are as they were, and files that are written hold their artifacts. -/
structure Advances (mode : Mode) (rendered : List (Kind × String)) (t : Tree) (paths : List String) (t' : Tree) :
    Prop where
  touches : Touches t rendered paths t'
  keeps : mode = .check → t' = t
  holds : mode = .write → ∀ path ∈ paths, Holds t' rendered path

theorem Advances.nil (mode : Mode) (rendered : List (Kind × String)) (t : Tree) : Advances mode rendered t [] t :=
  ⟨⟨.refl t, fun _ _ => rfl⟩, fun _ => rfl, fun _ _ hpath => absurd hpath List.not_mem_nil⟩

theorem Advances.trans {t t' t'' : Tree} {paths' : List String} (h : Advances mode rendered t paths t')
    (h' : Advances mode rendered t' paths' t'') : Advances mode rendered t (paths ++ paths') t'' := by
  refine ⟨h.touches.trans h'.touches, fun hmode => (h'.keeps hmode).trans (h.keeps hmode), fun hmode => ?_⟩
  rw [List.forall_mem_append]
  -- What the first files hold outlasts the later ones.
  exact ⟨fun path hpath => (h.holds hmode path hpath).of_touches h'.touches (h'.holds hmode), h'.holds hmode⟩

/-- What is said about a path. -/
structure Answers (mode : Mode) (rendered : List (Kind × String)) (path : String) (report : Report) : Prop where
  path_eq : report.path = path
  kind_eq : report.kind = Kind.ofPath? path
  skipped_iff : report.status = .skipped ↔ artifactFor rendered path = none
  not_stale : mode = .write → report.status ≠ .stale

/-- A path that receives no artifact is passed over. -/
theorem advances_of_none {t : Tree} (h : artifactFor rendered path = none) :
    Advances mode rendered t [path] t := by
  refine ⟨⟨.refl t, fun _ _ => rfl⟩, fun _ => rfl, fun _ q hq text htext => ?_⟩
  rw [List.mem_singleton.mp hq, h] at htext
  cases htext

theorem advances_of_updates {t t' : Tree} {status : Status} (htext : artifactFor rendered path = some text)
    (h : Updates mode path text t (.ok status) t') : Advances mode rendered t [path] t' := by
  cases mode with
  | check =>
    obtain rfl := h.of_check
    exact ⟨⟨.refl _, fun _ _ => rfl⟩, fun _ => rfl, fun hmode => by cases hmode⟩
  | write =>
    obtain ⟨-, hwrites⟩ := h.of_write
    refine ⟨touches_of_writes hwrites htext, fun hmode => (by cases hmode), fun _ q hq text' htext' => ?_⟩
    obtain rfl := List.mem_singleton.mp hq
    obtain rfl : text = text' := Option.some.inj (htext.symm.trans htext')
    exact hwrites.read

/-- A step that succeeds. -/
theorem updatePath_ok (hfiles : Host.Faithful files) {report : Report}
    (h : outcome (updatePath mode rendered path) s = (.ok report, s')) :
    Answers mode rendered path report ∧ Advances mode rendered (files s) [path] (files s') := by
  rw [updatePath_eq] at h
  cases htext : artifactFor rendered path with
  | none =>
    rw [htext] at h
    obtain ⟨hreport, hkept⟩ := hfiles.of_outcome_record h
    obtain rfl := Except.ok.inj hreport
    rw [hkept]
    exact ⟨⟨rfl, rfl, by simp [htext], fun _ => by simp⟩, advances_of_none htext⟩
  | some text =>
    rw [htext] at h
    obtain ⟨status, s₁, hupdate, hlast⟩ := Host.of_outcome_bind_ok h
    cases hlast
    have hupdates := updates_update hfiles hupdate
    refine ⟨⟨rfl, rfl, by simp [htext, hupdates.ne_skipped], fun hmode => ?_⟩, advances_of_updates htext hupdates⟩
    subst hmode
    exact hupdates.of_write.1

/-- A step that fails changes nothing, and its path receives an artifact. -/
theorem updatePath_error (hfiles : Host.Faithful files) {e : Error}
    (h : outcome (updatePath mode rendered path) s = (.error e, s')) :
    (∃ text, artifactFor rendered path = some text) ∧ (∃ reason, e = .file path reason) ∧
      files s' = files s := by
  rw [updatePath_eq] at h
  cases htext : artifactFor rendered path with
  | none =>
    rw [htext] at h
    cases (hfiles.of_outcome_record h).1
  | some text =>
    rw [htext] at h
    rcases Host.of_outcome_bind_error h with hupdate | ⟨_, _, _, hlast⟩
    · obtain ⟨hreason, hkept⟩ := (updates_update hfiles hupdate).of_error
      exact ⟨⟨text, rfl⟩, hreason, hkept⟩
    · cases hlast

/-! ## All paths -/

/-- Steps that succeed one after the other. -/
theorem updatePaths_ok (hfiles : Host.Faithful files) {reports : List Report}
    (h : outcome (paths.mapM (updatePath mode rendered)) s = (.ok reports, s')) :
    List.Forall₂ (Answers mode rendered) paths reports ∧
      Advances mode rendered (files s) paths (files s') := by
  -- Both are kept by every step, so that they hold of the run.
  refine Host.outcome_mapM_ok (fun paths s reports s' =>
    List.Forall₂ (Answers mode rendered) paths reports ∧ Advances mode rendered (files s) paths (files s'))
      (fun s => ⟨.nil, .nil mode rendered (files s)⟩) ?_ h
  intro path paths s report s₁ reports s' hstep hrest
  obtain ⟨hanswers, hadvances⟩ := hrest
  obtain ⟨hanswer, hadvance⟩ := updatePath_ok hfiles hstep
  exact ⟨.cons hanswer hanswers, hadvance.trans hadvances⟩

/-! ## Rendering on a host -/

theorem render_ok (hfiles : Host.Faithful files) {kind : Kind} {entry : Kind × String}
    (h : outcome (render config d kind) s = (.ok entry, s')) :
    (∃ text, Artifact.render kind config d = .ok text ∧ entry = (kind, text)) ∧ files s' = files s := by
  unfold render at h
  cases htext : Artifact.render kind config d with
  | error reason =>
    rw [htext] at h
    cases h
  | ok text =>
    rw [htext] at h
    obtain ⟨hentry, hkept⟩ := hfiles.of_outcome_record h
    exact ⟨⟨text, rfl, Except.ok.inj hentry⟩, hkept⟩

theorem render_error (hfiles : Host.Faithful files) {kind : Kind} {e : Error}
    (h : outcome (render config d kind) s = (.error e, s')) :
    (∃ reason, Artifact.render kind config d = .error reason ∧ e = .render reason) ∧ files s' = files s := by
  unfold render at h
  cases htext : Artifact.render kind config d with
  | error reason =>
    rw [htext] at h
    cases h
    exact ⟨⟨reason, rfl, rfl⟩, rfl⟩
  | ok text =>
    rw [htext] at h
    cases (hfiles.of_outcome_record h).1

theorem renders_ok (hfiles : Host.Faithful files) {kinds : List Kind}
    (h : outcome (kinds.mapM (render config d)) s = (.ok rendered, s')) :
    Renders config d kinds rendered ∧ files s' = files s := by
  refine Host.outcome_mapM_ok (fun kinds s rendered s' =>
    Renders config d kinds rendered ∧ files s' = files s) (fun s => ⟨.nil, rfl⟩) ?_ h
  intro kind kinds s entry s₁ rendered s' hstep hrest
  obtain ⟨hrenders, hkept⟩ := hrest
  obtain ⟨hentry, hkept₁⟩ := render_ok hfiles hstep
  exact ⟨.cons hentry hrenders, hkept.trans hkept₁⟩

/-- Where rendering fails, an artifact that is asked for cannot be rendered, and no file has changed. -/
theorem renderAll_error (hfiles : Host.Faithful files) {e : Error}
    (h : outcome (renderAll config d paths) s = (.error e, s')) :
    (∃ reason, e = .render reason ∧ ∃ path ∈ paths, ∃ kind, Kind.ofPath? path = some kind ∧
      Artifact.render kind config d = .error reason) ∧ files s' = files s := by
  obtain ⟨earlier, kind, later, entries, s₁, hkinds, hearlier, hfails⟩ := Host.outcome_mapM_error h
  obtain ⟨⟨reason, hreason, he⟩, hkept⟩ := render_error hfiles hfails
  refine ⟨⟨reason, he, ?_⟩, hkept.trans (renders_ok hfiles hearlier).2⟩
  have hkind : kind ∈ kindsOf paths := by rw [hkinds]; simp
  rw [kindsOf, List.mem_eraseDups, List.mem_filterMap] at hkind
  obtain ⟨path, hpath, hofPath⟩ := hkind
  exact ⟨path, hpath, kind, hofPath, hreason⟩

/-! ## What outputs are asked for -/

/-- The file of a path holds the artifact that the path asks for, if it asks for one. -/
def Delivered (config : Config) (d : Document) (t : Tree) (path : String) : Prop :=
  ∀ kind, Kind.ofPath? path = some kind → ∃ text, Artifact.render kind config d = .ok text ∧
    t.read path = .ok text.toUTF8

/-- Nothing has changed but what stands where the paths that ask for artifacts lead to. -/
def Spares (paths : List String) (t t' : Tree) : Prop :=
  ∀ place, (∀ path ∈ paths, (Kind.ofPath? path).isSome = true → t.locate path ≠ .ok place) →
    t'.get? place = t.get? place

theorem Touches.spares {t t' : Tree} (h : Touches t rendered paths t') : Spares paths t t' := by
  intro place hplace
  refine h.others place fun path hpath text htext => hplace path hpath ?_
  obtain ⟨kind, hkind, -⟩ := Option.bind_eq_some_iff.mp htext
  rw [hkind, Option.isSome_some]

theorem Holds.delivered {t : Tree} (h : Holds t rendered path)
    (hrenders : Renders config d (kindsOf paths) rendered) (hpath : path ∈ paths) : Delivered config d t path := by
  intro kind hkind
  obtain ⟨text, htext⟩ := exists_renders_iff.mp ⟨rendered, hrenders⟩ path hpath kind hkind
  exact ⟨text, htext, h text ((hrenders.artifactFor_eq_some_iff hpath).mpr ⟨kind, hkind, htext⟩)⟩

/-! ## Rendering, and then the paths -/

/-- An update that succeeds. -/
theorem updateAll_ok (hfiles : Host.Faithful files) {reports : List Report}
    (h : outcome (updateAll mode config d paths) s = (.ok reports, s')) :
    ∃ rendered, Renders config d (kindsOf paths) rendered ∧ List.Forall₂ (Answers mode rendered) paths reports ∧
      Advances mode rendered (files s) paths (files s') := by
  obtain ⟨rendered, s₁, hrendered, hpaths⟩ := Host.of_outcome_bind_ok h
  obtain ⟨hrenders, hkept⟩ := renders_ok hfiles hrendered
  obtain ⟨hanswers, hadvances⟩ := updatePaths_ok hfiles hpaths
  rw [hkept] at hadvances
  exact ⟨rendered, hrenders, hanswers, hadvances⟩

/-- An update stops at a path behind some others: everything that is asked for has been rendered and the files of
the others are up to date, but that of the path is refused. -/
def StopsAt (mode : Mode) (config : Config) (d : Document) (paths earlier : List String) (path : String) (s : σ)
    (e : Error) (s' : σ) : Prop :=
  ∃ rendered reports s₁ s₂, outcome (renderAll config d paths) s = (.ok rendered, s₁) ∧
    outcome (earlier.mapM (updatePath mode rendered)) s₁ = (.ok reports, s₂) ∧
    outcome (updatePath mode rendered path) s₂ = (.error e, s')

/-- An update that fails: something cannot be rendered and nothing has changed, or the update stops at a path. -/
theorem updateAll_error (hfiles : Host.Faithful files) {e : Error}
    (h : outcome (updateAll mode config d paths) s = (.error e, s')) :
    ((∃ reason, e = .render reason ∧ ∃ path ∈ paths, ∃ kind, Kind.ofPath? path = some kind ∧
      Artifact.render kind config d = .error reason) ∧ files s' = files s) ∨
    ∃ earlier path later, paths = earlier ++ path :: later ∧ StopsAt mode config d paths earlier path s e s' := by
  rcases Host.of_outcome_bind_error h with hrender | ⟨rendered, s₁, hrendered, hpaths⟩
  · exact Or.inl (renderAll_error hfiles hrender)
  · obtain ⟨earlier, path, later, reports, s₂, heq, hearlier, hfails⟩ := Host.outcome_mapM_error hpaths
    exact Or.inr ⟨earlier, path, later, heq, rendered, reports, s₁, s₂, hrendered, hearlier, hfails⟩

/-- Where an update stops, all artifacts have been rendered, the paths before have been gone through, and the last
step has changed nothing. -/
theorem StopsAt.advances (hfiles : Host.Faithful files) {earlier : List String} {e : Error}
    (h : StopsAt mode config d paths earlier path s e s') :
    ∃ rendered, Renders config d (kindsOf paths) rendered ∧ Advances mode rendered (files s) earlier (files s') ∧
      (∃ s₁, outcome (updatePath mode rendered path) s₁ = (.error e, s') ∧ files s' = files s₁) ∧
      (∃ text, artifactFor rendered path = some text) ∧ ∃ reason, e = .file path reason := by
  obtain ⟨rendered, reports, s₁, s₂, hrendered, hearlier, hfails⟩ := h
  obtain ⟨hrenders, hkept₁⟩ := renders_ok hfiles hrendered
  obtain ⟨-, hadvances⟩ := updatePaths_ok hfiles hearlier
  obtain ⟨htext, hreason, hkept⟩ := updatePath_error hfiles hfails
  rw [hkept₁, ← hkept] at hadvances
  exact ⟨rendered, hrenders, hadvances, ⟨s₂, hfails, hkept⟩, htext, hreason⟩

/-- Where outputs are only compared, nothing changes, whatever comes of it. -/
theorem files_updateAll_check (hfiles : Host.Faithful files) {result : Except Error (List Report)}
    (h : outcome (updateAll .check config d paths) s = (result, s')) : files s' = files s := by
  cases result with
  | ok reports =>
    obtain ⟨_, -, -, hadvances⟩ := updateAll_ok hfiles h
    exact hadvances.keeps rfl
  | error e =>
    rcases updateAll_error hfiles h with ⟨-, hkept⟩ | ⟨_, _, _, -, hstops⟩
    · exact hkept
    · obtain ⟨_, -, hadvances, -⟩ := hstops.advances hfiles
      exact hadvances.keeps rfl

end Hosts

/-! ## Updates of sessions -/

section Session

open Session (outcome)

variable {s s' : Session}

/-- A file that holds its artifact already is left alone. -/
theorem settle_of_current (mode : Mode) (path : String) {current : Option ByteArray}
    (h : current = some text.toUTF8) (s : Session) :
    ∃ s', outcome (settle mode path text current) s = (.ok .unchanged, s') ∧ s'.files = s.files := by
  refine ⟨{ s with events := s.events ++ [.outputCurrent path] }, ?_, rfl⟩
  unfold settle
  rw [if_pos (map_data_eq_some_iff.mpr h)]
  rfl

theorem settle_write_of_canWrite (h : s.files.CanWrite path) (text : String) (current : Option ByteArray) :
    ∃ status s', outcome (settle .write path text current) s = (.ok status, s') := by
  by_cases heq : current = some text.toUTF8
  · obtain ⟨s', hs', -⟩ := settle_of_current .write path heq s
    exact ⟨.unchanged, s', hs'⟩
  · obtain ⟨t, ht, -⟩ := Tree.write_eq_ok text.toUTF8 h
    have hwrite : outcome (Host.writeBytes path text.toUTF8 : ExceptT Error (StateM Session) _) s =
        (.ok (.ok ()), { s with files := t }) := by
      rw [Session.outcome_writeBytes, Session.writeBytes, ht]
    refine ⟨.written, { s with files := t, events := s.events ++ [.outputWritten path text.utf8ByteSize] }, ?_⟩
    rw [settle, if_neg fun hdata => heq (map_data_eq_some_iff.mp hdata), Session.outcome_bind_of_ok hwrite]
    rfl

/-- A file that can be written is brought up to date. -/
theorem update_write_of_canWrite (h : s.files.CanWrite path) (text : String) :
    ∃ status s', outcome (update .write path text) s = (.ok status, s') := by
  rw [update_eq, Session.outcome_bind_of_ok (Session.outcome_readBytes path s)]
  rcases h.canRead with ⟨bytes, hread⟩ | hread
  · rw [hread]
    exact settle_write_of_canWrite h text (some bytes)
  · rw [hread]
    exact settle_write_of_canWrite h text none

/-- Where a step that writes fails, the file cannot be written. -/
theorem not_ready_of_error {e : Error} (h : outcome (updatePath .write rendered path) s = (.error e, s')) :
    ¬Ready s.files rendered path := by
  intro hready
  obtain ⟨⟨text, htext⟩, -⟩ := updatePath_error Session.faithful h
  obtain ⟨status, s₁, hupdate⟩ := update_write_of_canWrite (hready text htext) text
  rw [updatePath_eq, htext] at h
  cases (Session.outcome_bind_of_ok hupdate).symm.trans h

theorem not_stale_of_answers {reports : List Report} (h : List.Forall₂ (Answers .write rendered) paths reports) :
    ∀ report ∈ reports, report.status ≠ .stale := by
  induction h with
  | nil => simp
  | cons hanswer _ ih => exact List.forall_mem_cons.mpr ⟨hanswer.not_stale rfl, ih⟩

/-- What comes of outputs that are written: all of them are brought up to date, or something cannot be rendered
and nothing is written, or some file cannot be written. -/
theorem updateAll_write (config : Config) (d : Document) (paths : List String) (s : Session) :
    (∃ rendered reports s', outcome (updateAll .write config d paths) s = (.ok reports, s') ∧
        Renders config d (kindsOf paths) rendered ∧ (∀ report ∈ reports, report.status ≠ .stale) ∧
        (∀ path ∈ paths, Ready s.files rendered path) ∧ Touches s.files rendered paths s'.files ∧
        ∀ path ∈ paths, Holds s'.files rendered path) ∨
      ∃ e s', outcome (updateAll .write config d paths) s = (.error e, s') ∧
        (((¬∃ rendered, Renders config d (kindsOf paths) rendered) ∧ s'.files = s.files) ∨
          ∃ rendered, Renders config d (kindsOf paths) rendered ∧
            (∃ path ∈ paths, ¬Ready s.files rendered path) ∧ Touches s.files rendered paths s'.files) := by
  rcases h : outcome (updateAll .write config d paths) s with ⟨e | reports, s'⟩
  · refine Or.inr ⟨e, s', rfl, ?_⟩
    rcases updateAll_error Session.faithful h with
      ⟨⟨reason, -, path, hpath, kind, hkind, hfails⟩, hkept⟩ | ⟨earlier, path, later, rfl, hstops⟩
    · refine Or.inl ⟨fun hrenders => ?_, hkept⟩
      obtain ⟨text, htext⟩ := exists_renders_iff.mp hrenders path hpath kind hkind
      cases hfails.symm.trans htext
    · obtain ⟨rendered, hrenders, hadvances, ⟨s₂, hfails, hkept⟩, -⟩ := hstops.advances Session.faithful
      have hnot : ¬Ready s'.files rendered path := by
        rw [hkept]
        exact not_ready_of_error hfails
      refine Or.inr ⟨rendered, hrenders, ⟨path, by simp, mt hadvances.touches.ready_iff.mpr hnot⟩, ?_⟩
      exact hadvances.touches.mono (List.subset_append_left _ _)
  · obtain ⟨rendered, hrenders, hanswers, hadvances⟩ := updateAll_ok Session.faithful h
    refine Or.inl ⟨rendered, reports, s', rfl, hrenders, not_stale_of_answers hanswers, fun path hpath => ?_,
      hadvances.touches, hadvances.holds rfl⟩
    exact hadvances.touches.ready_iff.mp (hadvances.holds rfl path hpath).ready

end Session

end ProfileBindings.Output
