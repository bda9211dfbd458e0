import Mathlib.Data.List.Forall2

/-!
# Steps that can fail

What a row of steps gives if each of them succeeds, and which failure it reports otherwise.

* `Alike` : two steps have the same failure, or both succeed with results that are related.

Main statements:
* `bind_eq_ok_iff`, `bind_eq_error_iff` : two steps, the second of which needs the result of the first;
* `Alike.bind`, `Alike.bind_eq` : steps that are alike, one after the other;
* `mapM_eq_ok_iff`, `mapM_eq_error_iff` : the same step for everything in a list; the first failure counts.
-/

namespace ProfileBindings

variable {ε ε' α β : Type} {l : List α} {e : ε}

theorem bind_eq_ok_iff {x : Except ε α} {f : α → Except ε β} {b : β} :
    (x >>= f) = .ok b ↔ ∃ a, x = .ok a ∧ f a = .ok b := by
  cases x <;> simp [bind, Except.bind]

theorem bind_eq_error_iff {x : Except ε α} {f : α → Except ε β} :
    (x >>= f) = .error e ↔ x = .error e ∨ ∃ a, x = .ok a ∧ f a = .error e := by
  cases x <;> simp [bind, Except.bind]

theorem map_eq_ok_iff {x : Except ε α} {f : α → β} {b : β} :
    x.map f = .ok b ↔ ∃ a, x = .ok a ∧ f a = b := by
  cases x <;> simp [Except.map]

theorem map_eq_error_iff {x : Except ε α} {f : α → β} : x.map f = .error e ↔ x = .error e := by
  cases x <;> simp [Except.map]

theorem mapError_eq_ok_iff {x : Except ε α} {f : ε → ε'} {a : α} :
    x.mapError f = .ok a ↔ x = .ok a := by
  cases x <;> simp [Except.mapError]

theorem mapError_eq_error_iff {x : Except ε α} {f : ε → ε'} {e : ε'} :
    x.mapError f = .error e ↔ ∃ reason, x = .error reason ∧ f reason = e := by
  cases x <;> simp [Except.mapError]

/-- Two steps have the same failure, or both succeed with related results. -/
inductive Alike (Q : α → β → Prop) : Except ε α → Except ε β → Prop where
  | error (e : ε) : Alike Q (.error e) (.error e)
  | ok {a : α} {b : β} (h : Q a b) : Alike Q (.ok a) (.ok b)

theorem Alike.refl {Q : α → α → Prop} (hQ : ∀ a, Q a a) : ∀ x : Except ε α, Alike Q x x
  | .error e => .error e
  | .ok a => .ok (hQ a)

theorem Alike.bind {α' β' : Type} {Q : α → α' → Prop} {P : β → β' → Prop} {x : Except ε α} {y : Except ε α'}
    {f : α → Except ε β} {g : α' → Except ε β'} (h : Alike Q x y) (hfg : ∀ a b, Q a b → Alike P (f a) (g b)) :
    Alike P (x >>= f) (y >>= g) := by
  cases h with
  | error e => exact .error e
  | ok h => exact hfg _ _ h

theorem Alike.bind_same {β' : Type} {P : β → β' → Prop} {f : α → Except ε β} {g : α → Except ε β'}
    (x : Except ε α) (hfg : ∀ a, Alike P (f a) (g a)) : Alike P (x >>= f) (x >>= g) := by
  cases x with
  | error e => exact .error e
  | ok a => exact hfg a

/-- What follows on steps that are alike is the same if it makes no difference between their results. -/
theorem Alike.bind_eq {α' : Type} {Q : α → α' → Prop} {x : Except ε α} {y : Except ε α'} {f : α → Except ε β}
    {g : α' → Except ε β} (h : Alike Q x y) (hfg : ∀ a b, Q a b → g b = f a) : (y >>= g) = (x >>= f) := by
  cases h with
  | error e => rfl
  | ok h => exact hfg _ _ h

theorem Alike.mapError {Q : α → β → Prop} {x : Except ε α} {y : Except ε β} (h : Alike Q x y) (f : ε → ε') :
    Alike Q (x.mapError f) (y.mapError f) := by
  cases h with
  | error e => exact .error (f e)
  | ok h => exact .ok h

/-- Everything in a list has a counterpart exactly if the list has one. -/
theorem exists_forall₂_iff {R : α → β → Prop} :
    (∃ bs, List.Forall₂ R l bs) ↔ ∀ a ∈ l, ∃ b, R a b := by
  induction l with
  | nil => simp
  | cons a l ih =>
    rw [List.forall_mem_cons, ← ih]
    simp only [List.forall₂_cons_left_iff]
    constructor
    · rintro ⟨_, b, bs, hb, hbs, rfl⟩
      exact ⟨⟨b, hb⟩, bs, hbs⟩
    · rintro ⟨⟨b, hb⟩, bs, hbs⟩
      exact ⟨_, b, bs, hb, hbs, rfl⟩

/-- Where it is known what each step gives, it is known what all steps together give. -/
theorem mapM_eq_ok_iff_of_forall {f : α → Except ε β} {R : β → α → Prop} {r : List β}
    (hf : ∀ a ∈ l, ∀ b, f a = .ok b ↔ R b a) : l.mapM f = .ok r ↔ List.Forall₂ R r l := by
  induction l generalizing r with
  | nil => simp [pure, Except.pure, eq_comm]
  | cons a l ih =>
    obtain ⟨ha, hl⟩ := List.forall_mem_cons.mp hf
    rw [List.mapM_cons, bind_eq_ok_iff, List.forall₂_cons_right_iff]
    constructor
    · rintro ⟨b, hb, hrest⟩
      obtain ⟨bs, hbs, hr⟩ := bind_eq_ok_iff.mp hrest
      exact ⟨b, bs, (ha b).mp hb, (ih hl).mp hbs, (Except.ok.inj hr).symm⟩
    · rintro ⟨b, bs, hb, hbs, rfl⟩
      exact ⟨b, (ha b).mpr hb, bind_eq_ok_iff.mpr ⟨bs, (ih hl).mpr hbs, rfl⟩⟩

/-- The same step for everything in a list gives a result for each. -/
theorem mapM_eq_ok_iff {f : α → Except ε β} {r : List β} :
    l.mapM f = .ok r ↔ List.Forall₂ (fun b a => f a = .ok b) r l :=
  mapM_eq_ok_iff_of_forall fun _ _ _ => Iff.rfl

/-- Where each step passes under a condition and always gives the same, all steps together do so. -/
theorem mapM_eq_ok_map_iff {f : α → Except ε β} {g : α → β} {P : α → Prop}
    (hf : ∀ a b, f a = .ok b ↔ P a ∧ b = g a) {r : List β} :
    l.mapM f = .ok r ↔ (∀ a ∈ l, P a) ∧ r = l.map g := by
  have hflip : List.Forall₂ (fun b a => P a ∧ b = g a) r l ↔ List.Forall₂ (fun a b => P a ∧ g a = b) l r := by
    simp only [eq_comm]
    exact ⟨List.Forall₂.flip, List.Forall₂.flip⟩
  simp only [mapM_eq_ok_iff, hf]
  rw [hflip, List.forall₂_and_left, ← List.forall₂_map_left_iff (f := g), List.forall₂_eq_eq_eq, eq_comm]

/-- Steps in a row fail as the first of them that does. -/
theorem mapM_eq_error_iff {f : α → Except ε β} :
    l.mapM f = .error e ↔
      ∃ before a after, l = before ++ a :: after ∧ (∀ b ∈ before, ∃ r, f b = .ok r) ∧ f a = .error e := by
  induction l with
  | nil =>
    constructor
    · intro h
      cases h
    · rintro ⟨before, a, after, hl, -⟩
      simp at hl
  | cons b l ih =>
    rw [List.mapM_cons, bind_eq_error_iff]
    constructor
    · rintro (hb | ⟨r, hb, hrest⟩)
      · exact ⟨[], b, l, rfl, by simp, hb⟩
      · -- What comes after the steps cannot fail.
        have hl : l.mapM f = .error e := by
          simpa [bind_eq_error_iff, pure, Except.pure] using hrest
        obtain ⟨before, a, after, rfl, hbefore, ha⟩ := ih.mp hl
        exact ⟨b :: before, a, after, rfl, List.forall_mem_cons.mpr ⟨⟨r, hb⟩, hbefore⟩, ha⟩
    · rintro ⟨before, a, after, hl, hbefore, ha⟩
      cases before with
      | nil =>
        obtain ⟨rfl, rfl⟩ := List.cons.inj hl
        exact .inl ha
      | cons c before =>
        obtain ⟨rfl, rfl⟩ := List.cons.inj hl
        obtain ⟨⟨r, hb⟩, hbefore⟩ := List.forall_mem_cons.mp hbefore
        refine .inr ⟨r, hb, bind_eq_error_iff.mpr (.inl (ih.mpr ⟨before, a, after, rfl, hbefore, ha⟩))⟩

end ProfileBindings
