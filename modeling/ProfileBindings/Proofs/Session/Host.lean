import ProfileBindings.Session.Basic

/-!
# Hosts that are values

A host whose states are values runs an action that may fail to a result and a state. What is proved of such runs
holds on every host of this kind, on sessions among others.

A host is faithful if its states show a tree of files, and if it does to this tree what it says: bytes that were
read were there, bytes that were written are there, and where it says that it could not write, nothing has
changed. It need not be able to read or write anything: it may fail whenever it likes.

* `Host.outcome` : the result of an action and the state afterwards;
* `Host.Faithful` : faithful hosts;
* `Session.Refusing` : sessions on a system that refuses some operations.

Main statements:
* `Host.outcome_bind_of_ok`, `Host.outcome_bind_of_error` : what follows an action;
* `Host.outcome_mapM_ok`, `Host.outcome_mapM_error` : a run of steps that succeeds, and one that fails;
* `Session.faithful`, `Session.Refusing.faithful` : sessions are faithful hosts.
-/

namespace ProfileBindings

namespace Host

variable {σ ε α β : Type}

/-- What comes of an action in a state, and the state afterwards. -/
def outcome (action : ExceptT ε (StateM σ) α) (s : σ) : Except ε α × σ := action.run.run s

section Outcome

variable {s s' : σ} {action : ExceptT ε (StateM σ) α} {next : α → ExceptT ε (StateM σ) β}

/-- An action always leaves some state behind. -/
theorem exists_outcome {result : Except ε α} (h : (outcome action s).1 = result) :
    ∃ s', outcome action s = (result, s') :=
  ⟨_, Prod.ext h rfl⟩

theorem outcome_bind_of_ok {a : α} (h : outcome action s = (.ok a, s')) :
    outcome (action >>= next) s = outcome (next a) s' := by
  have hrun : action.run.run s = (.ok a, s') := h
  simp only [outcome, ExceptT.run_bind, StateT.run_bind, hrun]
  rfl

theorem outcome_bind_of_error {e : ε} (h : outcome action s = (.error e, s')) :
    outcome (action >>= next) s = (.error e, s') := by
  have hrun : action.run.run s = (.error e, s') := h
  simp only [outcome, ExceptT.run_bind, StateT.run_bind, hrun]
  rfl

/-- What cannot fail succeeds with what comes of it. -/
theorem outcome_lift {action : StateM σ α} {a : α} (h : action.run s = (a, s')) :
    outcome (ExceptT.lift action : ExceptT ε (StateM σ) α) s = (.ok a, s') := by
  have hlift : outcome (ExceptT.lift action : ExceptT ε (StateM σ) α) s =
      (.ok (action.run s).1, (action.run s).2) := rfl
  rw [hlift, h]

/-- An action and what follows it succeed one after the other. -/
theorem of_outcome_bind_ok {b : β} (h : outcome (action >>= next) s = (.ok b, s')) :
    ∃ a s₁, outcome action s = (.ok a, s₁) ∧ outcome (next a) s₁ = (.ok b, s') := by
  rcases haction : outcome action s with ⟨_ | a, s₁⟩
  · rw [outcome_bind_of_error haction] at h
    cases h
  · rw [outcome_bind_of_ok haction] at h
    exact ⟨a, s₁, rfl, h⟩

/-- Either an action fails, or it succeeds and what follows it fails. -/
theorem of_outcome_bind_error {e : ε} (h : outcome (action >>= next) s = (.error e, s')) :
    outcome action s = (.error e, s') ∨
      ∃ a s₁, outcome action s = (.ok a, s₁) ∧ outcome (next a) s₁ = (.error e, s') := by
  rcases haction : outcome action s with ⟨e' | a, s₁⟩
  · rw [outcome_bind_of_error haction] at h
    cases h
    exact Or.inl rfl
  · rw [outcome_bind_of_ok haction] at h
    exact Or.inr ⟨a, s₁, rfl, h⟩

end Outcome

/-! ## Runs of steps -/

section Steps

variable {step : α → ExceptT ε (StateM σ) β}

/-- What holds of no step at all, and goes on to hold with every step that succeeds, holds of a run that
succeeds. -/
theorem outcome_mapM_ok (kept : List α → σ → List β → σ → Prop) (nil : ∀ s, kept [] s [] s)
    (cons : ∀ {a l s b s₁ bs s'}, outcome (step a) s = (.ok b, s₁) → kept l s₁ bs s' →
      kept (a :: l) s (b :: bs) s') {l : List α} {s s' : σ} {bs : List β}
    (h : outcome (l.mapM step) s = (.ok bs, s')) : kept l s bs s' := by
  induction l generalizing s bs with
  | nil =>
    rw [List.mapM_nil] at h
    cases h
    exact nil _
  | cons a l ih =>
    rw [List.mapM_cons] at h
    obtain ⟨b, s₁, hstep, hrest⟩ := of_outcome_bind_ok h
    obtain ⟨bs', s₂, hsteps, hlast⟩ := of_outcome_bind_ok hrest
    cases hlast
    exact cons hstep (ih hsteps)

/-- A run fails at the step behind some others, and these have succeeded. -/
theorem outcome_mapM_error {l : List α} {s s' : σ} {e : ε} (h : outcome (l.mapM step) s = (.error e, s')) :
    ∃ earlier a later bs s₁, l = earlier ++ a :: later ∧ outcome (earlier.mapM step) s = (.ok bs, s₁) ∧
      outcome (step a) s₁ = (.error e, s') := by
  induction l generalizing s with
  | nil =>
    rw [List.mapM_nil] at h
    cases h
  | cons a l ih =>
    rw [List.mapM_cons] at h
    -- The first step fails, or it joins the steps that have succeeded before a later one fails.
    rcases of_outcome_bind_error h with hstep | ⟨b, s₁, hstep, hrest⟩
    · exact ⟨[], a, l, [], s, rfl, rfl, hstep⟩
    · rcases of_outcome_bind_error hrest with hsteps | ⟨bs, s₂, -, hlast⟩
      · obtain ⟨earlier, a', later, bs, s₂, rfl, hearlier, hfails⟩ := ih hsteps
        refine ⟨a :: earlier, a', later, b :: bs, s₂, rfl, ?_, hfails⟩
        rw [List.mapM_cons, outcome_bind_of_ok hstep, outcome_bind_of_ok hearlier]
        rfl
      · cases hlast

end Steps

/-! ## Faithful hosts -/

/-- The host does to the files that its states show what it says. Where it fails, they are as they were. -/
structure Faithful [Host (StateM σ)] (files : σ → Files.Tree) : Prop where
  /-- Reading changes nothing, and bytes that were read stand in the file. -/
  readBytes : ∀ {path s r s'}, (Host.readBytes path : StateM σ _).run s = (r, s') →
    files s' = files s ∧ ∀ bytes, r = .ok bytes → (files s).read path = .ok bytes
  /-- Bytes that were written stand in the file. -/
  written : ∀ {path bytes s s'}, (Host.writeBytes path bytes : StateM σ _).run s = (.ok (), s') →
    (files s).write path bytes = .ok (files s')
  /-- A file that could not be written is as it was. -/
  notWritten : ∀ {path bytes s e s'}, (Host.writeBytes path bytes : StateM σ _).run s = (.error e, s') →
    files s' = files s
  record : ∀ {event s s'}, (Host.record event : StateM σ _).run s = ((), s') → files s' = files s
  say : ∀ {line s s'}, (Host.say line : StateM σ _).run s = ((), s') → files s' = files s

namespace Faithful

variable [Host (StateM σ)] {files : σ → Files.Tree} (hfiles : Faithful files)
include hfiles

theorem outcome_readBytes (path : String) (s : σ) :
    ∃ found s', outcome (Host.readBytes path : ExceptT ε (StateM σ) _) s = (.ok found, s') ∧
      files s' = files s ∧ ∀ bytes, found = .ok bytes → (files s).read path = .ok bytes :=
  ⟨_, _, rfl, hfiles.readBytes rfl⟩

theorem outcome_writeBytes (path : String) (bytes : ByteArray) (s : σ) :
    (∃ s', outcome (Host.writeBytes path bytes : ExceptT ε (StateM σ) _) s = (.ok (.ok ()), s') ∧
        (files s).write path bytes = .ok (files s')) ∨
      ∃ reason s', outcome (Host.writeBytes path bytes : ExceptT ε (StateM σ) _) s = (.ok (.error reason), s') ∧
        files s' = files s := by
  rcases hrun : (Host.writeBytes path bytes : StateM σ _).run s with ⟨reason | ⟨⟩, s'⟩
  · exact Or.inr ⟨reason, s', outcome_lift hrun, hfiles.notWritten hrun⟩
  · exact Or.inl ⟨s', outcome_lift hrun, hfiles.written hrun⟩

/-- To put an event into the log and to come back with something succeeds, and changes no file. -/
theorem of_outcome_record {event : Event} {a : α} {s s' : σ} {result : Except ε α}
    (h : outcome (Host.record event >>= fun _ => pure a) s = (result, s')) :
    result = .ok a ∧ files s' = files s := by
  have hrecord : outcome (Host.record event : ExceptT ε (StateM σ) _) s =
      (.ok (), ((Host.record event : StateM σ Unit).run s).2) := rfl
  rw [outcome_bind_of_ok hrecord] at h
  cases h
  exact ⟨rfl, hfiles.record rfl⟩

end Faithful

end Host

namespace Session

/-- A session is a faithful host. -/
theorem faithful : Host.Faithful Session.files := by
  refine ⟨?_, ?_, ?_, ?_, ?_⟩
  · intro path s r s' h
    obtain ⟨rfl, rfl⟩ : s.files.read path = r ∧ s = s' := Prod.ext_iff.mp h
    exact ⟨rfl, fun _ hread => hread⟩
  · intro path bytes s s' h
    have hwrite : s.writeBytes path bytes = (.ok (), s') := h
    unfold writeBytes at hwrite
    split at hwrite
    · next files hfiles =>
      obtain ⟨-, rfl⟩ := Prod.ext_iff.mp hwrite
      exact hfiles
    · cases hwrite
  · intro path bytes s e s' h
    have hwrite : s.writeBytes path bytes = (.error e, s') := h
    unfold writeBytes at hwrite
    split at hwrite
    · cases hwrite
    · obtain ⟨-, rfl⟩ := Prod.ext_iff.mp hwrite
      rfl
  · intro event s s' h
    obtain ⟨-, rfl⟩ := Prod.ext_iff.mp h
    rfl
  · intro line s s' h
    obtain ⟨-, rfl⟩ := Prod.ext_iff.mp h
    rfl

/-- A session on a system that may refuse to read or to write a file, for whatever reason: the disk may be full,
or the user may lack a permission. What it says to the operations to come stands in a list. Where nothing
stands, and behind the end of the list, the operation is let through. -/
structure Refusing where
  session : Session
  refusals : List (Option Files.Error)

namespace Refusing

/-- The files of the session. -/
def files (s : Refusing) : Files.Tree := s.session.files

/-- Let an operation through, or refuse it. -/
def attempt {α : Type} (operation : Session → Except Files.Error α × Session) (s : Refusing) :
    Except Files.Error α × Refusing :=
  match s.refusals with
  | some e :: later => (.error e, { s with refusals := later })
  | none :: later => ((operation s.session).1, ⟨(operation s.session).2, later⟩)
  | [] => ((operation s.session).1, ⟨(operation s.session).2, []⟩)

/-- Refusals leave the log and what is printed alone. -/
instance : Host (StateM Refusing) where
  readBytes path := attempt (Host.readBytes path : StateM Session _).run
  writeBytes path bytes := attempt (Host.writeBytes path bytes : StateM Session _).run
  record event s := ((), { s with session := ((Host.record event : StateM Session Unit).run s.session).2 })
  say line s := ((), { s with session := ((Host.say line : StateM Session Unit).run s.session).2 })

/-- An operation fails and leaves the session as it was, or the session carries it out. -/
theorem attempt_cases {α : Type} {operation : Session → Except Files.Error α × Session} {s s' : Refusing}
    {r : Except Files.Error α} (h : attempt operation s = (r, s')) :
    (∃ e, r = .error e ∧ s'.session = s.session) ∨ operation s.session = (r, s'.session) := by
  unfold attempt at h
  split at h
  · obtain ⟨rfl, rfl⟩ := Prod.ext_iff.mp h
    exact Or.inl ⟨_, rfl, rfl⟩
  · obtain ⟨rfl, rfl⟩ := Prod.ext_iff.mp h
    exact Or.inr rfl
  · obtain ⟨rfl, rfl⟩ := Prod.ext_iff.mp h
    exact Or.inr rfl

/-- Whatever is refused, the host is faithful. -/
theorem faithful : Host.Faithful Refusing.files := by
  refine ⟨?_, ?_, ?_, ?_, ?_⟩
  · intro path s r s' h
    rcases attempt_cases h with ⟨e, rfl, hsession⟩ | hread
    · exact ⟨congrArg Session.files hsession, fun _ hread => by cases hread⟩
    · exact Session.faithful.readBytes hread
  · intro path bytes s s' h
    rcases attempt_cases h with ⟨e, herror, -⟩ | hwrite
    · cases herror
    · exact Session.faithful.written hwrite
  · intro path bytes s e s' h
    rcases attempt_cases h with ⟨e', -, hsession⟩ | hwrite
    · exact congrArg Session.files hsession
    · exact Session.faithful.notWritten hwrite
  · intro event s s' h
    obtain ⟨-, rfl⟩ := Prod.ext_iff.mp h
    rfl
  · intro line s s' h
    obtain ⟨-, rfl⟩ := Prod.ext_iff.mp h
    rfl

end Refusing

end Session

end ProfileBindings
