import ProfileBindings.Proofs.Enumerator.Names
import ProfileBindings.Proofs.Enumerator.Scan

/-!
# What a header declares, and what it does not

* `Unknown.Before` : the order in which unknown enumerators are listed.

Main statements:
* `contains_declared_iff` : which enumerators a header declares;
* `mem_unknown_iff`, `pairwise_unknown` : what is listed as unknown, and in which order;
* `declares_words_outside_comments` : both, with words and comments read off the text.
-/

namespace ProfileBindings.Header

/-! ## Declared enumerators -/

/-- A header declares the words of its code, each in the direction that its beginning tells. -/
theorem contains_declared_iff {text : String} {direction : Direction} {name : String} :
    (declared text).contains direction name = true ↔
      name ∈ words (code text) ∧ Direction.ofEnumerator? name = some direction := by
  have hof : ((declared text).of direction).toList
      = (Sorted.Set.ofList (enumerators direction (words (code text)))).toList := by
    cases direction <;> rfl
  rw [EnumeratorNames.contains, Sorted.Set.contains, List.contains_iff_mem, hof, Sorted.Set.mem_ofList]
  simp [enumerators]

/-! ## Unknown enumerators -/

variable {known names : EnumeratorNames}

theorem mem_unknownIn_iff {direction : Direction} {u : Unknown} :
    u ∈ unknownIn known names direction ↔ u.direction = direction ∧
      u.name ∈ (names.of direction).toList ∧ known.contains direction u.name = false := by
  simp only [unknownIn, List.mem_map, List.mem_filter, Bool.not_eq_true']
  constructor
  · rintro ⟨name, hname, rfl⟩
    exact ⟨rfl, hname⟩
  · rintro ⟨rfl, hname⟩
    exact ⟨u.name, hname, rfl⟩

/-- What is listed as unknown: the names that are not declared in their direction. -/
theorem mem_unknown_iff {u : Unknown} : u ∈ unknown known names ↔
    u.name ∈ (names.of u.direction).toList ∧ known.contains u.direction u.name = false := by
  rw [unknown, List.mem_append, mem_unknownIn_iff, mem_unknownIn_iff]
  constructor
  · rintro (⟨hdirection, h⟩ | ⟨hdirection, h⟩)
    · rwa [hdirection]
    · rwa [hdirection]
  · intro h
    cases hdirection : u.direction with
    | input =>
      rw [hdirection] at h
      exact Or.inl ⟨rfl, h⟩
    | output =>
      rw [hdirection] at h
      exact Or.inr ⟨rfl, h⟩

/-- Nothing is unknown exactly if all names are declared. -/
theorem unknown_eq_nil_iff : unknown known names = [] ↔
    ∀ direction, ∀ name ∈ (names.of direction).toList, known.contains direction name = true := by
  simp only [List.eq_nil_iff_forall_not_mem, mem_unknown_iff, not_and, Bool.not_eq_false]
  constructor
  · intro h direction name hname
    exact h ⟨direction, name⟩ hname
  · intro h u hname
    exact h u.direction u.name hname

/-- The order of unknown enumerators: inputs come first, and names ascend within a direction. -/
def Unknown.Before (u v : Unknown) : Prop :=
  (u.direction = .input ∧ v.direction = .output) ∨ (u.direction = v.direction ∧ u.name < v.name)

theorem Unknown.Before.ne {u v : Unknown} (h : u.Before v) : u ≠ v := by
  rintro rfl
  rcases h with ⟨hinput, houtput⟩ | ⟨-, hlt⟩
  · rw [hinput] at houtput
    contradiction
  · exact absurd hlt (String.lt_irrefl u.name)

/-- Unknown enumerators are listed in their order. -/
theorem pairwise_unknown (known names : EnumeratorNames) :
    (unknown known names).Pairwise Unknown.Before := by
  have hwithin : ∀ direction, (unknownIn known names direction).Pairwise Unknown.Before := by
    intro direction
    refine List.pairwise_map.mpr (List.Pairwise.filter _ ?_)
    exact (names.of direction).ascending.imp fun hlt => Or.inr ⟨rfl, hlt⟩
  refine List.pairwise_append.mpr ⟨hwithin .input, hwithin .output, fun u hu v hv => ?_⟩
  exact Or.inl ⟨(mem_unknownIn_iff.mp hu).1, (mem_unknownIn_iff.mp hv).1⟩

/-! ## The header as a text -/

/-- A header declares the words outside its comments that begin like an enumerator, each in the direction that
its beginning tells; what is a comment and what is a word is told by the one row of pieces that the text is
read as. Of any names those are listed as unknown that are not declared, each once and in order. -/
theorem declares_words_outside_comments (text : String) (names : EnumeratorNames) :
    (∃ pieces, Scans text.toList pieces ∧ (∀ other, Scans text.toList other → other = pieces) ∧
      ∀ direction name, (declared text).contains direction name = true ↔
        Text.hasPrefix direction.enumeratorStart name = true ∧ IsWord pieces name) ∧
    (∀ u, u ∈ unknown (declared text) names ↔
      u.name ∈ (names.of u.direction).toList ∧ (declared text).contains u.direction u.name = false) ∧
    (unknown (declared text) names).Nodup ∧
    (unknown (declared text) names).Pairwise Unknown.Before := by
  obtain ⟨pieces, hpieces, hunique⟩ := existsUnique_scans text.toList
  have hordered := pairwise_unknown (declared text) names
  refine ⟨⟨pieces, hpieces, hunique, fun direction name => ?_⟩, fun u => mem_unknown_iff,
    hordered.imp fun hbefore => hbefore.ne, hordered⟩
  rw [contains_declared_iff, Direction.ofEnumerator?_eq_some_iff, and_comm]
  refine and_congr_right fun hstart => mem_words_code_iff hpieces ?_
  -- The beginning of an enumerator is not empty.
  rintro rfl
  revert hstart
  cases direction <;> decide

/-- Stars and slashes at their closest: the star that begins a comment does not end it, a comment stands
between two words, and the last one is never closed. -/
example :
    (declared "/*/ XRT_INPUT_A **/XRT_INPUT_B/**/_C//*\nXRT_INPUT_D*//XRT_INPUT_E\n/*/XRT_INPUT_F").inputs.toList =
      ["XRT_INPUT_B", "XRT_INPUT_D"] := by
  decide +kernel

end ProfileBindings.Header
