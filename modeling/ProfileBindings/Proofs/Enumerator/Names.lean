import ProfileBindings.Proofs.Check.Errors
import ProfileBindings.Proofs.Config.Valid

/-!
# The enumerators of a sound document

Main statements:
* `EnumeratorNames.mem_inputs`, `EnumeratorNames.mem_outputs` : which enumerators a document has;
* `EnumeratorNames.isEnumeratorOf_of_mem` : in a sound document they are enumerators of their direction.
-/

namespace ProfileBindings

open Check

/-- The direction of an enumerator is told by its beginning, since no name begins like those of both. -/
theorem Direction.ofEnumerator?_eq_some_iff {direction : Direction} {name : String} :
    Direction.ofEnumerator? name = some direction ↔
      Text.hasPrefix direction.enumeratorStart name = true := by
  have hnot : Text.hasPrefix output.enumeratorStart name = true →
      ¬Text.hasPrefix input.enumeratorStart name = true := by
    intro houtput hinput
    -- Of two beginnings of one name one begins the other.
    have hstarts := List.prefix_or_prefix_of_prefix (List.isPrefixOf_iff_prefix.mp hinput)
      (List.isPrefixOf_iff_prefix.mp houtput)
    exact absurd hstarts (by decide)
  unfold Direction.ofEnumerator?
  cases direction with
  | input =>
    split
    · next hinput => exact iff_of_true rfl hinput
    · next hinput =>
      refine iff_of_false ?_ hinput
      split <;> simp
  | output =>
    split
    · next hinput => exact iff_of_false (by simp) fun houtput => hnot houtput hinput
    · simp

/-- What can be bound to a component is an enumerator of its direction. -/
theorem Check.Enumerates.isEnumeratorOf {enumerator component : String}
    (h : Enumerates enumerator component) :
    Config.isEnumeratorOf (.ofComponent component) enumerator = true :=
  Config.isEnumeratorOf_iff.mpr ⟨h.1, Direction.ofEnumerator?_eq_some_iff.mp h.2⟩

namespace EnumeratorNames

/-- Some component of the document in this direction is bound to the enumerator. -/
def Binds (d : Document) (direction : Direction) (name : String) : Prop :=
  ∃ p ∈ d.profiles, ∃ c ∈ p.expand, c.direction = direction ∧ c.binding = .bound name

theorem enumerator?_eq_some_iff {b : Binding} {name : String} :
    b.enumerator? = some name ↔ b = .bound name := by
  cases b <;> simp [Binding.enumerator?]

theorem mem_bound {d : Document} {direction : Direction} {name : String} :
    name ∈ bound direction (d.profiles.flatMap Profile.expand) ↔ Binds d direction name := by
  simp only [bound, List.mem_filterMap, List.mem_filter, List.mem_flatMap, decide_eq_true_eq,
    enumerator?_eq_some_iff]
  constructor
  · rintro ⟨c, ⟨⟨p, hp, hc⟩, hdirection⟩, hbound⟩
    exact ⟨p, hp, c, hc, hdirection, hbound⟩
  · rintro ⟨p, hp, c, hc, hdirection, hbound⟩
    exact ⟨c, ⟨⟨p, hp, hc⟩, hdirection⟩, hbound⟩

theorem mem_inputs {d : Document} {extraInputs : List String} {name : String} :
    name ∈ (ofDocument d extraInputs).inputs.toList ↔ Binds d .input name ∨ name ∈ extraInputs := by
  rw [ofDocument, Sorted.Set.mem_ofList, List.mem_append, mem_bound]

theorem mem_outputs {d : Document} {extraInputs : List String} {name : String} :
    name ∈ (ofDocument d extraInputs).outputs.toList ↔ Binds d .output name := by
  rw [ofDocument, Sorted.Set.mem_ofList, mem_bound]

/-- The enumerators of a document are among those that it has with extra inputs. -/
theorem mem_of_binds {d : Document} {direction : Direction} {name : String} (h : Binds d direction name)
    (extraInputs : List String) : name ∈ ((ofDocument d extraInputs).of direction).toList := by
  cases direction with
  | input => exact mem_inputs.mpr (Or.inl h)
  | output => exact mem_outputs.mpr h

theorem isEnumeratorOf_of_binds {d : Document} {capacity : Nat} (hd : SoundDocument capacity d)
    {direction : Direction} {name : String} (h : Binds d direction name) :
    Config.isEnumeratorOf direction name = true := by
  obtain ⟨p, hp, c, hc, rfl, hbound⟩ := h
  exact ((hd.profiles p hp).enumerates hc hbound).isEnumeratorOf

/-- The enumerators of a sound document, with extra inputs, are enumerators of their direction. -/
theorem isEnumeratorOf_of_mem {config : Config} {d : Document} (hc : config.Valid)
    (hd : SoundDocument config.pathsPerTemplate d) {direction : Direction} {name : String}
    (h : name ∈ ((ofDocument d config.extraInputs).of direction).toList) :
    Config.isEnumeratorOf direction name = true := by
  cases direction with
  | input =>
    rcases mem_inputs.mp h with hbinds | hextra
    · exact isEnumeratorOf_of_binds hd hbinds
    · exact hc.extraInputs name hextra
  | output => exact isEnumeratorOf_of_binds hd (mem_outputs.mp h)

end EnumeratorNames

end ProfileBindings
