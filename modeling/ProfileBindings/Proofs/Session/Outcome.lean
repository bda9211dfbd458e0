import Mathlib.Data.List.Forall2
import ProfileBindings.Proofs.Session.Host

/-!
# What comes of an action

An action that may fail, run in a session, gives a result and the session afterwards. Most actions only look at
files: whether they succeed and with what is told by the files, and the files stay as they are. Such actions
put together look at files only, too.

* `Session.outcome` : the result of an action and the session afterwards;
* `Session.Finds` : the action changes no file, and succeeds with what stands in a relation to the files.

Main statements: the rules of `Finds`, one for each way in which actions are put together.
-/

namespace ProfileBindings.Session

variable {ε ε' α β : Type}

/-- What comes of an action in a session, and the session afterwards. -/
def outcome (action : ExceptT ε (StateM Session) α) (s : Session) : Except ε α × Session := action.run.run s

section Outcome

variable {s s' : Session}

theorem outcome_pure (a : α) (s : Session) :
    outcome (pure a : ExceptT ε (StateM Session) α) s = (.ok a, s) := rfl

theorem outcome_readBytes (path : String) (s : Session) :
    outcome (Host.readBytes path : ExceptT ε (StateM Session) _) s = (.ok (s.files.read path), s) := rfl

theorem outcome_writeBytes (path : String) (bytes : ByteArray) (s : Session) :
    outcome (Host.writeBytes path bytes : ExceptT ε (StateM Session) _) s =
      (.ok (s.writeBytes path bytes).1, (s.writeBytes path bytes).2) := rfl

theorem outcome_record (event : Event) (s : Session) :
    outcome (Host.record event : ExceptT ε (StateM Session) _) s =
      (.ok (), { s with events := s.events ++ [event] }) := rfl

theorem outcome_say (line : String) (s : Session) :
    outcome (Host.say line : ExceptT ε (StateM Session) _) s =
      (.ok (), { s with printed := s.printed ++ [line] }) := rfl

variable {action : ExceptT ε (StateM Session) α} {next : α → ExceptT ε (StateM Session) β}

theorem outcome_bind_of_ok {a : α} (h : outcome action s = (.ok a, s')) :
    outcome (action >>= next) s = outcome (next a) s' :=
  Host.outcome_bind_of_ok h

theorem outcome_bind_of_error {e : ε} (h : outcome action s = (.error e, s')) :
    outcome (action >>= next) s = (.error e, s') :=
  Host.outcome_bind_of_error h

theorem outcome_adapt (f : ε → ε') (action : ExceptT ε (StateM Session) α) (s : Session) :
    outcome (ExceptT.adapt f action) s = ((outcome action s).1.mapError f, (outcome action s).2) := rfl

end Outcome

/-! ## Actions that look at files -/

/-- The action changes no file. It succeeds with what stands in a relation to the files. -/
structure Finds (action : ExceptT ε (StateM Session) α) (found : Files.Tree → α → Prop) : Prop where
  keeps : ∀ s, (outcome action s).2.files = s.files
  finds : ∀ s a, (outcome action s).1 = .ok a ↔ found s.files a

namespace Finds

variable {action : ExceptT ε (StateM Session) α} {found : Files.Tree → α → Prop}

theorem congr {found' : Files.Tree → α → Prop} (h : Finds action found)
    (heq : ∀ t a, found t a ↔ found' t a) : Finds action found' :=
  ⟨h.keeps, fun s a => (h.finds s a).trans (heq s.files a)⟩

/-- At most one thing is found in the files. -/
theorem unique (h : Finds action found) {t : Files.Tree} {a b : α} (ha : found t a) (hb : found t b) : a = b := by
  have ha' : (outcome action (.start t)).1 = .ok a := (h.finds (.start t) a).mpr ha
  have hb' : (outcome action (.start t)).1 = .ok b := (h.finds (.start t) b).mpr hb
  exact Except.ok.inj (ha'.symm.trans hb')

/-- The action finds something, or there is nothing to be found. -/
theorem found_or_failed (h : Finds action found) (s : Session) :
    (∃ a s', outcome action s = (.ok a, s') ∧ found s.files a ∧ s'.files = s.files) ∨
      ∃ e s', outcome action s = (.error e, s') ∧ (∀ a, ¬found s.files a) ∧ s'.files = s.files := by
  have hkeeps := h.keeps s
  have hfinds := h.finds s
  rcases houtcome : outcome action s with ⟨result, s'⟩
  rw [houtcome] at hkeeps hfinds
  cases result with
  | error e => exact Or.inr ⟨e, s', rfl, fun a ha => by simpa using (hfinds a).mpr ha, hkeeps⟩
  | ok a => exact Or.inl ⟨a, s', rfl, (hfinds a).mp rfl, hkeeps⟩

theorem pure (a : α) : Finds (Pure.pure a : ExceptT ε (StateM Session) α) fun _ b => b = a :=
  ⟨fun _ => rfl, fun s b => by simp [outcome_pure, eq_comm]⟩

theorem throw (e : ε) : Finds (MonadExcept.throw e : ExceptT ε (StateM Session) α) fun _ _ => False :=
  ⟨fun _ => rfl, fun s b => by simp [outcome]⟩

theorem lift (x : Except ε α) : Finds (liftM x : ExceptT ε (StateM Session) α) fun _ a => x = .ok a :=
  ⟨fun _ => rfl, fun _ _ => Iff.rfl⟩

theorem record (event : Event) : Finds (Host.record event : ExceptT ε (StateM Session) Unit) fun _ _ => True :=
  ⟨fun _ => rfl, fun _ _ => by simp [outcome_record]⟩

theorem say (line : String) : Finds (Host.say line : ExceptT ε (StateM Session) Unit) fun _ _ => True :=
  ⟨fun _ => rfl, fun _ _ => by simp [outcome_say]⟩

theorem readBytes (path : String) :
    Finds (Host.readBytes path : ExceptT ε (StateM Session) _) fun t r => r = t.read path :=
  ⟨fun _ => rfl, fun _ _ => by simp [outcome_readBytes, eq_comm]⟩

theorem bind {next : α → ExceptT ε (StateM Session) β} {foundNext : α → Files.Tree → β → Prop}
    (h : Finds action found) (hnext : ∀ a, Finds (next a) (foundNext a)) :
    Finds (action >>= next) fun t b => ∃ a, found t a ∧ foundNext a t b := by
  have hstep : ∀ s, (outcome (action >>= next) s).2.files = s.files ∧
      ∀ b, (outcome (action >>= next) s).1 = .ok b ↔ ∃ a, found s.files a ∧ foundNext a s.files b := by
    intro s
    rcases h.found_or_failed s with ⟨a, s', houtcome, hfound, hfiles⟩ | ⟨e, s', houtcome, hnone, hfiles⟩
    · rw [outcome_bind_of_ok houtcome]
      refine ⟨((hnext a).keeps s').trans hfiles, fun b => ?_⟩
      rw [(hnext a).finds, hfiles]
      constructor
      · exact fun hb => ⟨a, hfound, hb⟩
      · rintro ⟨a', ha', hb⟩
        obtain rfl := h.unique hfound ha'
        exact hb
    · rw [outcome_bind_of_error houtcome]
      refine ⟨hfiles, fun b => ?_⟩
      simp [hnone]
  exact ⟨fun s => (hstep s).1, fun s => (hstep s).2⟩

theorem adapt (f : ε → ε') (h : Finds action found) : Finds (ExceptT.adapt f action) found := by
  refine ⟨h.keeps, fun s a => ?_⟩
  rw [← h.finds, outcome_adapt]
  cases (outcome action s).1 <;> simp [Except.mapError]

theorem mapM {step : α → ExceptT ε (StateM Session) β} {foundStep : α → Files.Tree → β → Prop}
    (h : ∀ a, Finds (step a) (foundStep a)) (l : List α) :
    Finds (l.mapM step) fun t bs => List.Forall₂ (fun a b => foundStep a t b) l bs := by
  induction l with
  | nil =>
    rw [List.mapM_nil]
    exact (pure []).congr fun t bs => by simp
  | cons a l ih =>
    rw [List.mapM_cons]
    refine ((h a).bind fun b => ih.bind fun bs => pure (b :: bs)).congr fun t bs => ?_
    rw [List.forall₂_cons_left_iff]
    constructor
    · rintro ⟨b, hb, bs, hbs, rfl⟩
      exact ⟨b, bs, hb, hbs, rfl⟩
    · rintro ⟨b, bs, hb, hbs, rfl⟩
      exact ⟨b, hb, bs, hbs, rfl⟩

theorem forM {step : α → ExceptT ε (StateM Session) Unit} (h : ∀ a, Finds (step a) fun _ _ => True)
    (l : List α) : Finds (l.forM step) fun _ _ => True := by
  induction l with
  | nil => exact (pure ()).congr fun _ _ => by simp
  | cons a l ih => exact ((h a).bind fun _ => ih).congr fun _ _ => by simp

theorem readText (path : String) :
    Finds (Host.readText path : ExceptT ε (StateM Session) _) fun t r => r = (t.read path).bind Host.textOf :=
  ((readBytes path).bind fun bytes => pure (bytes.bind Host.textOf)).congr fun _ _ => by simp

end Finds

end ProfileBindings.Session
