import ProfileBindings.Json.Reader
import ProfileBindings.Proofs.Json.Keys

/-!
# Values of JSON texts

Whatever a text repeats, the objects of its value have each key once. Readers are put together of steps; what
a step yields is told by what the steps in it yield.

* `Step.Yields` : a step that succeeds gives something with a property.

Main statement: `wellKeyed_of_read`.
-/

namespace ProfileBindings.Json

variable {α β : Type} {P : α → Prop} {Q : β → Prop}

/-! ## Steps -/

/-- If the step succeeds, what it gives has a property. -/
def Step.Yields (P : α → Prop) (step : Step α) : Prop := ∀ a rest, step = .ok (a, rest) → P a

theorem Step.yields_ok_iff {a : α} {rest : List Char} : Yields P (.ok (a, rest)) ↔ P a := by
  constructor
  · exact fun h => h a rest rfl
  · intro h b rest' heq
    obtain ⟨rfl, -⟩ := Prod.mk.inj (Except.ok.inj heq)
    exact h

theorem Step.yields_error (fault : Cause × Nat) : Yields P (.error fault) := by
  intro a rest heq
  contradiction

theorem yields_faultHere (cause : Cause) (rest : List Char) : Step.Yields P (faultHere cause rest) :=
  Step.yields_error _

theorem yields_faultAhead (cause : Cause) (rest : List Char) : Step.Yields P (faultAhead cause rest) :=
  Step.yields_error _

theorem Step.Yields.andThen {step : Step α} {next : α → List Char → Step β} (h : step.Yields P)
    (hnext : ∀ a rest, P a → (next a rest).Yields Q) : (step.andThen next).Yields Q := by
  cases step with
  | error fault => exact Step.yields_error fault
  | ok result => exact hnext result.1 result.2 (h result.1 result.2 rfl)

/-- Nothing is known about what the first step gives. -/
theorem Step.yields_andThen {step : Step α} {next : α → List Char → Step β}
    (hnext : ∀ a rest, (next a rest).Yields Q) : (step.andThen next).Yields Q :=
  Step.Yields.andThen (fun _ _ _ => trivial) fun a rest (_ : True) => hnext a rest

/-! ## Values without members -/

theorem yields_scaled (positive : Bool) (significand : Nat) (exponent : Int) (rest : List Char) :
    (scaled positive significand exponent rest).Yields WellKeyed := by
  unfold scaled
  split
  · exact Step.yields_ok_iff.mpr trivial
  · exact yields_faultHere _ _

theorem yields_readExponent (positive : Bool) (significand : Nat) (start : Int) (cs : List Char) :
    (readExponent positive significand start cs).Yields WellKeyed := by
  unfold readExponent
  split
  split
  · exact yields_faultHere _ _
  · split
    · split
      · exact yields_scaled _ _ _ _
      · split
        · exact yields_faultHere _ _
        · exact Step.yields_ok_iff.mpr trivial
    · exact yields_faultAhead _ _

theorem yields_exponentOrEnd (positive : Bool) (significand : Nat) (exponent : Int) (cs : List Char) :
    (exponentOrEnd positive significand exponent cs).Yields WellKeyed := by
  unfold exponentOrEnd
  split
  · exact yields_readExponent _ _ _ _
  · exact yields_readExponent _ _ _ _
  · exact yields_scaled _ _ _ _

theorem yields_readFraction (positive : Bool) (significand : Nat) (exponent : Int) (cs : List Char) :
    (readFraction positive significand exponent cs).Yields WellKeyed := by
  unfold readFraction
  dsimp only
  split
  · exact yields_exponentOrEnd _ _ _ _
  · split
    · split
      · exact yields_faultAhead _ _
      · exact yields_faultAhead _ _
    · exact yields_exponentOrEnd _ _ _ _

theorem wellKeyed_ofInteger (positive : Bool) (significand : Nat) :
    (ofInteger positive significand).WellKeyed := by
  unfold ofInteger
  split
  · trivial
  · split <;> trivial

theorem yields_afterInteger (positive : Bool) (significand : Nat) (cs : List Char) :
    (afterInteger positive significand cs).Yields WellKeyed := by
  unfold afterInteger
  split
  · exact yields_readFraction _ _ _ _
  · exact yields_readExponent _ _ _ _
  · exact yields_readExponent _ _ _ _
  · exact Step.yields_ok_iff.mpr (wellKeyed_ofInteger positive significand)

theorem yields_readNumber (positive : Bool) (cs : List Char) : (readNumber positive cs).Yields WellKeyed := by
  unfold readNumber
  split
  · exact yields_faultHere _ _
  · split
    · split
      · exact yields_faultAhead _ _
      · exact yields_afterInteger _ _ _
    · split
      · dsimp only
        split
        · exact yields_afterInteger _ _ _
        · split
          · exact yields_readFraction _ _ _ _
          · exact yields_exponentOrEnd _ _ _ _
      · exact yields_faultAhead _ _

theorem yields_readWord {v : Json} (h : v.WellKeyed) (word cs : List Char) :
    (readWord v word cs).Yields WellKeyed := by
  induction word generalizing cs with
  | nil => exact Step.yields_ok_iff.mpr h
  | cons w word ih =>
    cases cs with
    | nil => exact yields_faultHere _ _
    | cons c cs =>
      rw [readWord]
      split
      · exact ih cs
      · exact yields_faultAhead _ _

/-! ## Containers -/

section Containers

variable {item : List Char → Step Json}

theorem yields_readItems (hitem : ∀ cs, (item cs).Yields WellKeyed) (fuel : Nat) (seen : List Json)
    (cs : List Char) (hseen : ∀ v ∈ seen, v.WellKeyed) :
    (readItems item fuel seen cs).Yields fun items => ∀ v ∈ items, v.WellKeyed := by
  induction fuel generalizing seen cs with
  | zero => exact yields_faultHere _ _
  | succ fuel ih =>
    have hnext : ∀ cs, ((item cs).andThen fun v rest => readItems item fuel (v :: seen) rest).Yields
        fun items => ∀ v ∈ items, v.WellKeyed := fun cs =>
      (hitem cs).andThen fun v rest hv => ih (v :: seen) rest (List.forall_mem_cons.mpr ⟨hv, hseen⟩)
    unfold readItems
    split
    · exact yields_faultHere _ _
    · exact Step.yields_ok_iff.mpr fun v hv => hseen v (List.mem_reverse.mp hv)
    · split
      · exact hnext _
      · split
        · split
          · exact yields_faultHere _ _
          · exact yields_faultAhead _ _
          · exact hnext _
        · exact yields_faultAhead _ _

theorem yields_readMember (hitem : ∀ cs, (item cs).Yields WellKeyed) (cs : List Char) :
    (readMember item cs).Yields fun member => member.2.WellKeyed := by
  refine Step.yields_andThen fun key rest => ?_
  split
  · exact yields_faultHere _ _
  · exact (hitem _).andThen fun v rest hv => Step.yields_ok_iff.mpr hv
  · exact yields_faultAhead _ _

theorem yields_readMembers (hitem : ∀ cs, (item cs).Yields WellKeyed) (fuel : Nat) (first : Bool) (seen : Fields)
    (cs : List Char) (hseen : WellKeyed (.obj seen)) :
    (readMembers item fuel first seen cs).Yields fun fields => WellKeyed (.obj fields) := by
  induction fuel generalizing first seen cs with
  | zero => exact yields_faultHere _ _
  | succ fuel ih =>
    have hnext : ∀ cs, ((readMember item cs).andThen fun member rest =>
        readMembers item fuel false (seen.insert member.1 member.2) rest).Yields
          fun fields => WellKeyed (.obj fields) := fun cs =>
      (yields_readMember hitem cs).andThen fun member rest hmember => ih _ _ rest (hseen.insert hmember)
    unfold readMembers
    split
    · exact yields_faultHere _ _
    · exact Step.yields_ok_iff.mpr hseen
    · split
      · split
        · exact hnext _
        · exact yields_faultAhead _ _
      · split
        · split
          · exact yields_faultHere _ _
          · exact hnext _
          · exact yields_faultAhead _ _
          · exact yields_faultAhead _ _
        · exact yields_faultAhead _ _

end Containers

/-! ## Whole values -/

theorem yields_readValueWith {list object : List Char → Step Json} (hlist : ∀ cs, (list cs).Yields WellKeyed)
    (hobject : ∀ cs, (object cs).Yields WellKeyed) (cs : List Char) :
    (readValueWith list object cs).Yields WellKeyed := by
  unfold readValueWith
  split
  · exact yields_faultHere _ _
  · repeat' split
    · exact yields_readWord (by trivial) _ _
    · exact yields_readWord (by trivial) _ _
    · exact yields_readWord (by trivial) _ _
    · exact yields_readNumber _ _
    · exact yields_readNumber _ _
    · exact Step.yields_andThen fun s rest => Step.yields_ok_iff.mpr trivial
    · exact hlist _
    · exact hobject _
    · exact yields_faultAhead _ _

theorem yields_readValue (depth : Nat) (cs : List Char) : (readValue depth cs).Yields WellKeyed := by
  induction depth generalizing cs with
  | zero => exact yields_readValueWith (fun _ => yields_faultHere _ _) (fun _ => yields_faultHere _ _) cs
  | succ depth ih =>
    refine yields_readValueWith (fun rest => ?_) (fun rest => ?_) cs
    · refine (yields_readItems ih _ [] rest (by simp)).andThen fun items rest hitems => ?_
      exact Step.yields_ok_iff.mpr (itemsWellKeyed_iff.mpr hitems)
    · refine (yields_readMembers ih _ true [] rest wellKeyed_empty).andThen
        fun fields rest hfields => ?_
      exact Step.yields_ok_iff.mpr hfields

/-- In the value of a text, no object has a key twice. -/
theorem wellKeyed_of_read {text : String} {v : Json} (h : read text = .ok v) : v.WellKeyed := by
  unfold read at h
  dsimp only at h
  split at h
  · contradiction
  · next value rest hvalue =>
    split at h
    · obtain rfl := Except.ok.inj h
      exact yields_readValue _ _ value rest hvalue
    · contradiction

end ProfileBindings.Json
