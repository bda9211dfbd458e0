import ProfileBindings.Proofs.Json.Keys
import ProfileBindings.Yaml.Value

/-!
# Values of YAML texts

A mapping of a YAML text may repeat a key, and so may one that an alias stands for; the objects of the value
have each key once all the same.

* `Reading.Yields` : a reader that succeeds gives something with a property.

Main statement: `wellKeyed_of_read`.
-/

namespace ProfileBindings.Yaml

open Json (WellKeyed)

variable {α β : Type} {P : α → Prop} {Q : β → Prop}

/-! ## Readers -/

/-- If the reader succeeds, what it gives has a property. -/
def Reading.Yields (P : α → Prop) (reader : Reading α) : Prop :=
  ∀ followed a followed', reader.run followed = .ok (a, followed') → P a

namespace Reading.Yields

theorem pure {a : α} (h : P a) : Reading.Yields P (Pure.pure a) := by
  intro followed b followed' heq
  obtain ⟨rfl, -⟩ := Prod.mk.inj (Except.ok.inj heq)
  exact h

theorem throw (e : Error) : Reading.Yields P (MonadExcept.throw e) := by
  intro followed a followed' heq
  contradiction

theorem bind {reader : Reading α} {next : α → Reading β} (h : reader.Yields P)
    (hnext : ∀ a, P a → (next a).Yields Q) : Reading.Yields Q (reader >>= next) := by
  intro followed b followed' heq
  rw [StateT.run_bind] at heq
  cases hreader : reader.run followed with
  | error e =>
    rw [hreader] at heq
    contradiction
  | ok result =>
    rw [hreader] at heq
    exact hnext result.1 (h _ _ _ hreader) _ _ _ heq

/-- Nothing is known about what the first reader gives. -/
theorem bind' {reader : Reading α} {next : α → Reading β} (hnext : ∀ a, (next a).Yields Q) :
    Reading.Yields Q (reader >>= next) :=
  bind (P := fun _ => True) (fun _ _ _ _ => trivial) fun a _ => hnext a

theorem mapM {reader : β → Reading α} (h : ∀ b, (reader b).Yields P) (l : List β) :
    Reading.Yields (fun as => ∀ a ∈ as, P a) (l.mapM reader) := by
  induction l with
  | nil =>
    rw [List.mapM_nil]
    exact pure (by simp)
  | cons b l ih =>
    rw [List.mapM_cons]
    exact (h b).bind fun a ha => ih.bind fun as has => pure (List.forall_mem_cons.mpr ⟨ha, has⟩)

end Reading.Yields

/-! ## Values -/

namespace Source

variable {source : Source}

theorem wellKeyed_of_scalarValue {seen : Decode.Seen} {v : Json} (h : scalarValue seen = .ok v) :
    v.WellKeyed := by
  unfold scalarValue at h
  split at h
  · obtain rfl := Except.ok.inj h
    trivial
  · obtain rfl := Except.ok.inj h
    trivial
  · obtain rfl := Except.ok.inj h
    trivial
  · obtain rfl := Except.ok.inj h
    split <;> trivial
  · obtain rfl := Except.ok.inj h
    trivial
  · contradiction

theorem wellKeyed_of_meaning {found : Except Decode.Fault Decode.Seen} {v : Json}
    (h : found.bind scalarValue = .ok v) : v.WellKeyed := by
  cases found with
  | error reason => contradiction
  | ok seen => exact wellKeyed_of_scalarValue h

theorem yields_members {value : Path → Node → Reading Json}
    (hvalue : ∀ path node, (value path node).Yields WellKeyed) (path : Path) (pairs : List (Node × Node)) (seen : Json.Fields) (hseen : WellKeyed (.obj seen)) :
    (source.members value path pairs seen).Yields fun fields => WellKeyed (.obj fields) := by
  induction pairs generalizing seen with
  | nil => exact .pure hseen
  | cons pair rest ih =>
    rw [members]
    exact .bind' fun name => (hvalue _ _).bind fun v hv => ih _ (hseen.insert hv)

/-- One level of collections: what is in them is nested less deep. -/
theorem yields_value_of_inner {depth : Nat}
    (hinner : ∀ inner, depth = inner + 1 → ∀ path node, (source.value inner path node).Yields WellKeyed)
    (path : Path) (node : Node) : (source.value depth path node).Yields WellKeyed := by
  unfold value
  refine .bind' fun node => ?_
  split
  · refine .bind' fun _ => ?_
    split
    · next hv => exact .pure (wellKeyed_of_meaning hv)
    · exact .throw _
  · refine .bind' fun _ => ?_
    split
    · exact .throw _
    · next inner =>
      refine (Reading.Yields.mapM (fun item => hinner inner rfl _ _) _).bind fun items hitems => ?_
      exact .pure (Json.itemsWellKeyed_iff.mpr hitems)
  · refine .bind' fun _ => ?_
    split
    · exact .throw _
    · next inner =>
      exact (yields_members (hinner inner rfl) path _ [] Json.wellKeyed_empty).bind
        fun fields hfields => .pure hfields
  · exact .throw _

theorem yields_value (depth : Nat) (path : Path) (node : Node) :
    (source.value depth path node).Yields WellKeyed := by
  induction depth generalizing path node with
  | zero => exact yields_value_of_inner (fun _ h => by contradiction) path node
  | succ depth ih =>
    refine yields_value_of_inner (fun inner h => ?_) path node
    obtain rfl := Nat.succ.inj h
    exact ih

end Source

/-- In the value of a text, no object has a key twice. -/
theorem wellKeyed_of_read {text : String} {v : Json} (h : read text = .ok v) : v.WellKeyed := by
  unfold read at h
  dsimp only at h
  split at h
  · obtain rfl := Except.ok.inj h
    trivial
  · next root hroot =>
    unfold finish at h
    split at h
    · contradiction
    · next followed hvalue _ =>
      obtain rfl := Except.ok.inj h
      exact Source.yields_value _ _ _ _ _ _ hvalue
    · contradiction
    · contradiction

end ProfileBindings.Yaml
