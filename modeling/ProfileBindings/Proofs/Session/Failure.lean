import ProfileBindings.Proofs.Session.Outcome

/-!
# How an action fails

What an action may fail with is told by what its parts may fail with, whatever the files are.

* `Session.FailsOnly` : if the action fails, then for a reason of some kind.

Main statements: the rules of `FailsOnly` for the ways in which actions are put together.
-/

namespace ProfileBindings.Session

variable {ε ε' α β : Type}

/-- If the action fails, then for a reason of this kind. -/
def FailsOnly (action : ExceptT ε (StateM Session) α) (reason : ε → Prop) : Prop :=
  ∀ s e, (outcome action s).1 = .error e → reason e

namespace FailsOnly

variable {action : ExceptT ε (StateM Session) α} {reason : ε → Prop}

theorem pure (a : α) : FailsOnly (Pure.pure a : ExceptT ε (StateM Session) α) reason := by
  intro s e h
  cases h

theorem lift {x : Except ε α} (hx : ∀ e, x = .error e → reason e) :
    FailsOnly (liftM x : ExceptT ε (StateM Session) α) reason := fun _ e h => hx e h

theorem record (event : Event) :
    FailsOnly (Host.record event : ExceptT ε (StateM Session) Unit) reason := by
  intro s e h
  cases h

theorem say (line : String) : FailsOnly (Host.say line : ExceptT ε (StateM Session) Unit) reason := by
  intro s e h
  cases h

theorem bind {next : α → ExceptT ε (StateM Session) β} (h : FailsOnly action reason)
    (hnext : ∀ a, FailsOnly (next a) reason) : FailsOnly (action >>= next) reason := by
  intro s e he
  rcases houtcome : outcome action s with ⟨result, s'⟩
  cases result with
  | error e' =>
    rw [outcome_bind_of_error houtcome] at he
    obtain rfl := Except.error.inj he
    exact h s e' (congrArg Prod.fst houtcome)
  | ok a =>
    rw [outcome_bind_of_ok houtcome] at he
    exact hnext a s' e he

/-- What is known of a reason is what is known of the reason behind it. -/
theorem adapt {reason : ε' → Prop} {f : ε → ε'} (h : FailsOnly action fun e => reason (f e)) :
    FailsOnly (ExceptT.adapt f action) reason := by
  intro s e he
  rw [outcome_adapt] at he
  cases hresult : (outcome action s).1 with
  | error e' =>
    rw [hresult] at he
    obtain rfl := Except.error.inj he
    exact h s e' hresult
  | ok a =>
    rw [hresult] at he
    cases he

theorem forM {step : α → ExceptT ε (StateM Session) Unit} {l : List α}
    (h : ∀ a ∈ l, FailsOnly (step a) reason) : FailsOnly (l.forM step) reason := by
  induction l with
  | nil => exact pure ()
  | cons a l ih =>
    obtain ⟨ha, hl⟩ := List.forall_mem_cons.mp h
    exact ha.bind fun _ => ih hl

end FailsOnly

end ProfileBindings.Session
