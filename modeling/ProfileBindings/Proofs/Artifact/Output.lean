import ProfileBindings.Artifact.Output
import ProfileBindings.Proofs.Files.Tree
import ProfileBindings.Proofs.Session.Outcome
import ProfileBindings.Proofs.Steps

/-!
# What comes of outputs

Bringing outputs up to date writes files, so that each step finds other files than the step before. What is
needed of them stays: paths lead to the same places, and a place receives one artifact, whatever path leads to
it, since the artifact is told by the name of the place.

* `artifactFor` : the artifact of a path among those that were rendered;
* `Stale` : a file is missing or holds something else;
* `Holds` : a file holds the artifact of its path;
* `Touches` : nothing but the files of some paths has changed.

Main statements:
* `finds_renderAll` : what is rendered;
* `finds_updateAll_check` : what is found when outputs are only compared;
* `Holds.of_touches` : what a file holds outlasts later writes.
-/

namespace ProfileBindings

open Files (Tree)
open Session (Finds outcome)

/-! ## Artifacts of paths -/

namespace Artifact.Kind

variable {path : String} {k k' : Kind}

/-- No text ends as the paths of two artifacts do. -/
theorem eq_of_hasSuffix (h : Text.hasSuffix k.suffix path = true) (h' : Text.hasSuffix k'.suffix path = true) :
    k = k' := by
  have hlength : k.suffix.toList.length ≤ k'.suffix.toList.length := by
    cases k <;> cases k' <;> decide
  have hends : k.suffix.toList <:+ k'.suffix.toList :=
    List.suffix_of_suffix_length_le (Text.hasSuffix_iff.mp h) (Text.hasSuffix_iff.mp h') hlength
  revert hends
  cases k <;> cases k' <;> decide

/-- The artifact of a path is told by its ending. -/
theorem ofPath?_eq_some_iff : ofPath? path = some k ↔ Text.hasSuffix k.suffix path = true := by
  unfold ofPath?
  constructor
  · intro h
    split at h
    · next hsource =>
      obtain rfl := Option.some.inj h
      exact hsource
    · split at h
      · next hheader =>
        obtain rfl := Option.some.inj h
        exact hheader
      · contradiction
  · intro h
    split
    · next hsource => rw [eq_of_hasSuffix hsource h]
    · next hsource =>
      split
      · next hheader => rw [eq_of_hasSuffix hheader h]
      · next hheader =>
        cases k with
        | source => exact absurd h hsource
        | header => exact absurd h hheader

/-- A path that asks for an artifact leads to a place whose name ends accordingly. -/
theorem hasSuffix_of_locate {t : Tree} {place : Files.Place} (hk : ofPath? path = some k)
    (h : t.locate path = .ok place) : ∃ name ∈ place.getLast?, Text.hasSuffix k.suffix name = true := by
  have hne : k.suffix ≠ "" := by cases k <;> decide
  have hslash : '/' ∉ k.suffix.toList := by cases k <;> decide
  obtain ⟨front, name, hsteps, hname⟩ := Tree.exists_last_step hne hslash (ofPath?_eq_some_iff.mp hk)
  have hdot : name ≠ "." := by
    rintro rfl
    revert hname
    cases k <;> decide
  have hdots : name ≠ ".." := by
    rintro rfl
    revert hname
    cases k <;> decide
  refine ⟨name, ?_, hname⟩
  rw [Tree.locate, hsteps] at h
  split at h
  · contradiction
  · split at h
    · contradiction
    · split at h
      · contradiction
      · exact Tree.getLast?_of_follow hdot hdots h

/-- All paths to one place ask for the same artifact. -/
theorem eq_of_locate_eq {t : Tree} {path' : String} {place : Files.Place} (hk : ofPath? path = some k)
    (hk' : ofPath? path' = some k') (h : t.locate path = .ok place) (h' : t.locate path' = .ok place) :
    k = k' := by
  obtain ⟨name, hmem, hname⟩ := hasSuffix_of_locate hk h
  obtain ⟨name', hmem', hname'⟩ := hasSuffix_of_locate hk' h'
  obtain rfl : name = name' := Option.some.inj (hmem.symm.trans hmem')
  exact eq_of_hasSuffix hname hname'

end Artifact.Kind

namespace Output

open Artifact (Kind)

variable {config : Config} {d : Document} {paths : List String} {path text : String}
  {rendered : List (Kind × String)}

/-! ## Rendering -/

/-- Entries are the artifacts of some kinds, in their order. -/
def Renders (config : Config) (d : Document) (kinds : List Kind) (rendered : List (Kind × String)) : Prop :=
  List.Forall₂ (fun kind entry => ∃ text, Artifact.render kind config d = .ok text ∧ entry = (kind, text))
    kinds rendered

theorem finds_render (config : Config) (d : Document) (kind : Kind) :
    Finds (render config d kind : ExceptT Error (StateM Session) (Kind × String)) fun _ entry =>
      ∃ text, Artifact.render kind config d = .ok text ∧ entry = (kind, text) := by
  unfold render
  cases Artifact.render kind config d with
  | error reason => exact (Finds.throw _).congr fun _ _ => by simp
  | ok text => exact ((Finds.record _).bind fun _ => Finds.pure (kind, text)).congr fun _ _ => by simp

theorem finds_renderAll (config : Config) (d : Document) (paths : List String) :
    Finds (renderAll config d paths : ExceptT Error (StateM Session) _) fun _ rendered =>
      Renders config d (kindsOf paths) rendered :=
  Finds.mapM (finds_render config d) (kindsOf paths)

theorem Renders.lookup_eq_some_iff {kinds : List Kind} (h : Renders config d kinds rendered) {kind : Kind} :
    rendered.lookup kind = some text ↔ kind ∈ kinds ∧ Artifact.render kind config d = .ok text := by
  induction kinds generalizing rendered with
  | nil =>
    obtain rfl := List.forall₂_nil_left_iff.mp h
    simp
  | cons first kinds ih =>
    obtain ⟨_, rest, ⟨text', hrender, rfl⟩, hrest, rfl⟩ := List.forall₂_cons_left_iff.mp h
    by_cases hkind : kind = first
    · subst hkind
      simp [hrender]
    · have hne : (kind == first) = false := by simpa using hkind
      rw [List.lookup_cons, hne, ih hrest]
      simp [hkind]

/-- The artifact of a path among those that were rendered. -/
def artifactFor (rendered : List (Kind × String)) (path : String) : Option String :=
  (Kind.ofPath? path).bind fun kind => rendered.lookup kind

theorem exists_renders_iff : (∃ rendered, Renders config d (kindsOf paths) rendered) ↔
    ∀ path ∈ paths, ∀ kind, Kind.ofPath? path = some kind → ∃ text, Artifact.render kind config d = .ok text := by
  simp only [Renders, exists_forall₂_iff, kindsOf, List.mem_eraseDups, List.mem_filterMap]
  constructor
  · intro h path hpath kind hkind
    obtain ⟨_, text, htext, -⟩ := h kind ⟨path, hpath, hkind⟩
    exact ⟨text, htext⟩
  · rintro h kind ⟨path, hpath, hkind⟩
    obtain ⟨text, htext⟩ := h path hpath kind hkind
    exact ⟨_, text, htext, rfl⟩

/-- Each path that asks for an artifact has it. -/
theorem Renders.artifactFor_eq_some_iff (h : Renders config d (kindsOf paths) rendered) (hpath : path ∈ paths) :
    artifactFor rendered path = some text ↔
      ∃ kind, Kind.ofPath? path = some kind ∧ Artifact.render kind config d = .ok text := by
  rw [artifactFor, Option.bind_eq_some_iff]
  refine exists_congr fun kind => and_congr_right fun hkind => ?_
  have hmem : kind ∈ kindsOf paths := by
    rw [kindsOf, List.mem_eraseDups, List.mem_filterMap]
    exact ⟨path, hpath, hkind⟩
  rw [h.lookup_eq_some_iff]
  exact and_iff_right hmem

/-! ## One file -/

/-- The file of a path is missing or holds something else. -/
def Stale (t : Tree) (path text : String) : Prop :=
  t.read path = .error .notFound ∨ ∃ bytes, t.read path = .ok bytes ∧ bytes ≠ text.toUTF8

/-- What is done with a file once it has been looked at. -/
def settle {m : Type → Type} [Monad m] [Host m] (mode : Mode) (path text : String)
    (current : Option ByteArray) : ExceptT Error m Status := do
  if current.map ByteArray.data = some text.toUTF8.data then
    Host.record (.outputCurrent path)
    return .unchanged
  else match mode with
    | .check =>
      Host.record (.outputStale path current.isSome)
      return .stale
    | .write =>
      match ← Host.writeBytes path text.toUTF8 with
      | .error reason => throw (.file path reason)
      | .ok () =>
        Host.record (.outputWritten path text.utf8ByteSize)
        return .written

theorem throw_bind {m : Type → Type} [Monad m] [LawfulMonad m] {ε α β : Type} (e : ε)
    (next : α → ExceptT ε m β) : (throw e >>= next) = throw e := by
  apply ExceptT.ext
  rw [ExceptT.run_bind, ExceptT.run_throw, pure_bind]
  rfl

theorem update_eq {m : Type → Type} [Monad m] [LawfulMonad m] [Host m] (mode : Mode) (path text : String) :
    (update mode path text : ExceptT Error m Status) = Host.readBytes path >>= fun found =>
      match found with
      | .ok bytes => settle mode path text (some bytes)
      | .error .notFound => settle mode path text none
      | .error reason => throw (.file path reason) := by
  unfold update
  congr 1
  funext found
  cases found with
  | ok bytes => exact pure_bind _ _
  | error reason =>
    cases reason with
    | notFound => exact pure_bind _ _
    | _ => exact throw_bind _ _

theorem map_data_eq_some_iff {current : Option ByteArray} {bytes : ByteArray} :
    current.map ByteArray.data = some bytes.data ↔ current = some bytes := by
  rw [Option.map_eq_some_iff]
  constructor
  · rintro ⟨found, rfl, hdata⟩
    rw [ByteArray.ext hdata]
  · rintro rfl
    exact ⟨bytes, rfl, rfl⟩

/-! ## Outputs that are only compared -/

/-- What is found about the output of a path. -/
def Checks (t : Tree) (rendered : List (Kind × String)) (path : String) : Status → Prop
  | .skipped => artifactFor rendered path = none
  | .unchanged => ∃ text, artifactFor rendered path = some text ∧ t.read path = .ok text.toUTF8
  | .stale => ∃ text, artifactFor rendered path = some text ∧ Stale t path text
  | .written => False

theorem finds_settle_check (current : Option ByteArray) :
    Finds (settle .check path text current : ExceptT Error (StateM Session) Status) fun _ status =>
      (current = some text.toUTF8 ∧ status = .unchanged) ∨ (current ≠ some text.toUTF8 ∧ status = .stale) := by
  unfold settle
  by_cases hcurrent : current = some text.toUTF8
  · rw [if_pos (map_data_eq_some_iff.mpr hcurrent)]
    exact ((Finds.record _).bind fun _ => Finds.pure Status.unchanged).congr fun _ _ => by simp [hcurrent]
  · rw [if_neg (fun h => hcurrent (map_data_eq_some_iff.mp h))]
    exact ((Finds.record _).bind fun _ => Finds.pure Status.stale).congr fun _ _ => by
      simp only [ne_eq, hcurrent, not_false_eq_true, true_and, false_and, false_or, exists_const]

theorem finds_update_check (path text : String) :
    Finds (update .check path text : ExceptT Error (StateM Session) Status) fun t status =>
      (t.read path = .ok text.toUTF8 ∧ status = .unchanged) ∨ (Stale t path text ∧ status = .stale) := by
  rw [update_eq]
  have hnext : ∀ found : Except Files.Error ByteArray, Finds (match found with
      | .ok bytes => settle .check path text (some bytes)
      | .error .notFound => settle .check path text none
      | .error reason => throw (.file path reason)) fun _ status =>
        (found = .ok text.toUTF8 ∧ status = .unchanged) ∨
          ((found = .error .notFound ∨ ∃ bytes, found = .ok bytes ∧ bytes ≠ text.toUTF8) ∧ status = .stale) := by
    intro found
    cases found with
    | ok bytes => exact (finds_settle_check (some bytes)).congr fun _ _ => by simp
    | error reason =>
      cases reason with
      | notFound => exact (finds_settle_check none).congr fun _ _ => by simp
      | _ => exact (Finds.throw _).congr fun _ _ => by simp
  exact ((Finds.readBytes path).bind hnext).congr fun _ _ => by simp [Stale]

theorem checks_iff_of_none {t : Tree} {status : Status} (h : artifactFor rendered path = none) :
    Checks t rendered path status ↔ status = .skipped := by
  cases status <;> simp [Checks, h]

theorem checks_iff_of_some {t : Tree} {status : Status} (h : artifactFor rendered path = some text) :
    Checks t rendered path status ↔
      (t.read path = .ok text.toUTF8 ∧ status = .unchanged) ∨ (Stale t path text ∧ status = .stale) := by
  cases status <;> simp [Checks, h]

/-- What is done for a path that receives an artifact, and for another one. -/
theorem updatePath_eq {m : Type → Type} [Monad m] [Host m] (mode : Mode) (rendered : List (Kind × String))
    (path : String) : (updatePath mode rendered path : ExceptT Error m Report) =
      match artifactFor rendered path with
      | none => do
        Host.record (.outputSkipped path)
        return ⟨path, Kind.ofPath? path, .skipped⟩
      | some text => return ⟨path, Kind.ofPath? path, ← update mode path text⟩ := rfl

theorem finds_updatePath_check (rendered : List (Kind × String)) (path : String) :
    Finds (updatePath .check rendered path : ExceptT Error (StateM Session) Report) fun t report =>
      report.path = path ∧ report.kind = Kind.ofPath? path ∧ Checks t rendered path report.status := by
  rw [updatePath_eq]
  cases hartifact : artifactFor rendered path with
  | none =>
    refine ((Finds.record _).bind fun _ => Finds.pure (Report.mk path _ .skipped)).congr fun t report => ?_
    rw [checks_iff_of_none hartifact]
    cases report
    simp
  | some text =>
    refine ((finds_update_check path text).bind fun status => Finds.pure (Report.mk path _ status)).congr
      fun t report => ?_
    constructor
    · rintro ⟨status, hstatus, rfl⟩
      exact ⟨rfl, rfl, (checks_iff_of_some hartifact).mpr hstatus⟩
    · rintro ⟨hpath, hkind, hchecks⟩
      refine ⟨report.status, (checks_iff_of_some hartifact).mp hchecks, ?_⟩
      rw [← hkind, ← hpath]

/-- What is found about paths, in their order. -/
def Reports (t : Tree) (rendered : List (Kind × String)) (paths : List String) (reports : List Report) : Prop :=
  List.Forall₂ (fun path report => report.path = path ∧ report.kind = Kind.ofPath? path ∧
    Checks t rendered path report.status) paths reports

/-- What is found when outputs are only compared. -/
theorem finds_updateAll_check (config : Config) (d : Document) (paths : List String) :
    Finds (updateAll .check config d paths : ExceptT Error (StateM Session) (List Report)) fun t reports =>
      ∃ rendered, Renders config d (kindsOf paths) rendered ∧ Reports t rendered paths reports :=
  (finds_renderAll config d paths).bind fun rendered => Finds.mapM (finds_updatePath_check rendered) paths

/-- A file that can be looked at holds a text, or it is missing or holds something else. -/
theorem canRead_iff {t : Tree} (text : String) :
    t.CanRead path ↔ t.read path = .ok text.toUTF8 ∨ Stale t path text := by
  constructor
  · rintro (⟨bytes, hbytes⟩ | hmissing)
    · by_cases heq : bytes = text.toUTF8
      · exact Or.inl (heq ▸ hbytes)
      · exact Or.inr (Or.inr ⟨bytes, hbytes, heq⟩)
    · exact Or.inr (Or.inl hmissing)
  · rintro (hread | hmissing | ⟨bytes, hbytes, -⟩)
    · exact Or.inl ⟨_, hread⟩
    · exact Or.inr hmissing
    · exact Or.inl ⟨bytes, hbytes⟩

theorem Stale.read_ne {t : Tree} (h : Stale t path text) : t.read path ≠ .ok text.toUTF8 := by
  intro hread
  rcases h with hmissing | ⟨bytes, hbytes, hne⟩
  · rw [hread] at hmissing
    contradiction
  · exact hne (Except.ok.inj (hbytes.symm.trans hread))

/-- Something is found about an output unless its file cannot be looked at. -/
theorem exists_checks_iff {t : Tree} :
    (∃ status, Checks t rendered path status) ↔
      ∀ text, artifactFor rendered path = some text → t.CanRead path := by
  cases htext : artifactFor rendered path with
  | none => simp [checks_iff_of_none htext]
  | some text =>
    simp only [checks_iff_of_some htext, Option.some.injEq, forall_eq', canRead_iff text, exists_or]
    constructor
    · rintro (⟨_, hread, -⟩ | ⟨_, hstale, -⟩)
      · exact Or.inl hread
      · exact Or.inr hstale
    · rintro (hread | hstale)
      · exact Or.inl ⟨.unchanged, hread, rfl⟩
      · exact Or.inr ⟨.stale, hstale, rfl⟩

/-- An output is found stale exactly if it is. -/
theorem Checks.eq_stale_iff {t : Tree} {status : Status} (h : Checks t rendered path status) :
    status = .stale ↔ ∃ text, artifactFor rendered path = some text ∧ Stale t path text := by
  cases htext : artifactFor rendered path with
  | none =>
    obtain rfl := (checks_iff_of_none htext).mp h
    simp
  | some text =>
    simp only [Option.some.injEq, exists_eq_left']
    rcases (checks_iff_of_some htext).mp h with ⟨hread, rfl⟩ | ⟨hstale, rfl⟩
    · simpa using fun hstale : Stale t path text => hstale.read_ne hread
    · simpa using hstale

/-- Something is found about all outputs unless the file of one cannot be looked at. -/
theorem exists_reports_iff {t : Tree} : (∃ reports, Reports t rendered paths reports) ↔
    ∀ path ∈ paths, ∀ text, artifactFor rendered path = some text → t.CanRead path := by
  unfold Reports
  rw [exists_forall₂_iff]
  refine forall₂_congr fun path _ => ?_
  rw [← exists_checks_iff]
  constructor
  · rintro ⟨report, -, -, hchecks⟩
    exact ⟨report.status, hchecks⟩
  · rintro ⟨status, hchecks⟩
    exact ⟨⟨path, Kind.ofPath? path, status⟩, rfl, rfl, hchecks⟩

/-- The file of a path that receives an artifact can be written. -/
def Ready (t : Tree) (rendered : List (Kind × String)) (path : String) : Prop :=
  ∀ text, artifactFor rendered path = some text → t.CanWrite path

/-- The file of a path that receives an artifact holds it. -/
def Holds (t : Tree) (rendered : List (Kind × String)) (path : String) : Prop :=
  ∀ text, artifactFor rendered path = some text → t.read path = .ok text.toUTF8

/-- Nothing has changed but the files of some paths, and these only if they receive an artifact. -/
structure Touches (t : Tree) (rendered : List (Kind × String)) (paths : List String) (t' : Tree) : Prop where
  same : t.SameDirectories t'
  others : ∀ place, (∀ path ∈ paths, ∀ text, artifactFor rendered path = some text → t.locate path ≠ .ok place) →
    t'.get? place = t.get? place

/-- What can be written does not depend on what files hold. -/
theorem Touches.ready_iff {t t' : Tree} (h : Touches t rendered paths t') :
    Ready t' rendered path ↔ Ready t rendered path :=
  forall₂_congr fun _ _ => h.same.canWrite_iff

theorem Holds.ready {t : Tree} (h : Holds t rendered path) : Ready t rendered path :=
  fun text htext => Tree.canWrite_of_read (h text htext)

theorem Touches.mono {t t' : Tree} {paths' : List String} (h : Touches t rendered paths t')
    (hsub : paths ⊆ paths') : Touches t rendered paths' t' :=
  ⟨h.same, fun place hplace => h.others place fun path hpath => hplace path (hsub hpath)⟩

theorem Touches.trans {t t' t'' : Tree} {paths' : List String} (h : Touches t rendered paths t')
    (h' : Touches t' rendered paths' t'') : Touches t rendered (paths ++ paths') t'' := by
  refine ⟨h.same.trans h'.same, fun place hplace => ?_⟩
  rw [h'.others place, h.others place]
  · exact fun path hpath => hplace path (List.mem_append_left _ hpath)
  · intro path hpath text htext hlocate
    exact hplace path (List.mem_append_right _ hpath) text htext (h.same.locate_eq_ok_iff.mp hlocate)

/-- What a file holds is not lost: a later path to the same place brings the same artifact. -/
theorem Holds.of_touches {t t' : Tree} (h : Holds t rendered path) (htouches : Touches t rendered paths t')
    (hpaths : ∀ path ∈ paths, Holds t' rendered path) : Holds t' rendered path := by
  intro text htext
  obtain ⟨place, hlocate, hget⟩ := Tree.read_eq_ok_iff.mp (h text htext)
  have hlocate' : t'.locate path = .ok place := htouches.same.locate_eq_ok_iff.mpr hlocate
  refine Tree.read_eq_ok_iff.mpr ⟨place, hlocate', ?_⟩
  by_cases hlater : ∃ q ∈ paths, ∃ text', artifactFor rendered q = some text' ∧ t.locate q = .ok place
  · obtain ⟨q, hq, text', htext', hlocateq⟩ := hlater
    obtain ⟨place', hlocateq', hget'⟩ := Tree.read_eq_ok_iff.mp (hpaths q hq text' htext')
    obtain rfl : place' = place :=
      Except.ok.inj (hlocateq'.symm.trans (htouches.same.locate_eq_ok_iff.mpr hlocateq))
    obtain ⟨k, hk, hlookup⟩ := Option.bind_eq_some_iff.mp htext
    obtain ⟨k', hk', hlookup'⟩ := Option.bind_eq_some_iff.mp htext'
    obtain rfl : k = k' := Artifact.Kind.eq_of_locate_eq hk hk' hlocate hlocateq
    obtain rfl : text = text' := Option.some.inj (hlookup.symm.trans hlookup')
    exact hget'
  · rw [htouches.others place, hget]
    exact fun q hq text' htext' hlocateq => hlater ⟨q, hq, text', htext', hlocateq⟩

theorem touches_of_writes {t t' : Tree} (h : t.Writes path text.toUTF8 t')
    (htext : artifactFor rendered path = some text) : Touches t rendered [path] t' :=
  ⟨h.same, fun place hplace => h.others place (hplace path (List.mem_singleton_self path) text htext)⟩

end Output

end ProfileBindings
