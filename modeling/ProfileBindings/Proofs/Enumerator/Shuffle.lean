import Mathlib.Data.List.Forall2
import ProfileBindings.Proofs.Enumerator.Names
import ProfileBindings.Proofs.Text.Utf8

/-!
# Enumerators of a document in another order

Which enumerators a document has is a question of what it has, not of where: profiles and sub-paths may
change places, subaction paths and components may be listed in another order or more than once.

* `SameMembers`, `Rearranged` : lists that have the same elements, or related ones;
* `Document.Shuffled` : the documents differ in order and repetition only.

Main statements:
* `EnumeratorNames.ofDocument_eq_of_shuffled` : the enumerators are the same;
* `EnumeratorNames.pairwise_utf8` : their bytes are in ascending order.
-/

namespace ProfileBindings

/-- The lists have the same elements, in any order and as often as they like. -/
def SameMembers {α : Type} (l m : List α) : Prop := ∀ a, a ∈ l ↔ a ∈ m

/-- The elements of one list, put into another order, are related to those of the other. -/
def Rearranged {α : Type} (R : α → α → Prop) (l m : List α) : Prop :=
  ∃ n, l.Perm n ∧ List.Forall₂ R n m

theorem SameMembers.exists_mem_iff {α : Type} {l m : List α} (h : SameMembers l m) {P : α → Prop} :
    (∃ a ∈ l, P a) ↔ ∃ a ∈ m, P a :=
  exists_congr fun a => and_congr_left' (h a)

/-- What depends on an element only as far as the relation goes has an example in both lists or in neither. -/
theorem Rearranged.exists_mem_iff {α : Type} {R : α → α → Prop} {l m : List α} (h : Rearranged R l m)
    {P Q : α → Prop} (hR : ∀ a b, R a b → (P a ↔ Q b)) : (∃ a ∈ l, P a) ↔ ∃ b ∈ m, Q b := by
  obtain ⟨n, hperm, hrelated⟩ := h
  have hplaces : (∃ a ∈ l, P a) ↔ ∃ a ∈ n, P a := exists_congr fun a => and_congr_left' hperm.mem_iff
  rw [hplaces]
  clear hplaces hperm
  induction hrelated with
  | nil => simp
  | cons hab _ ih =>
    rw [List.exists_mem_cons_iff, List.exists_mem_cons_iff]
    exact or_congr (hR _ _ hab) ih

theorem Rearranged.refl {α : Type} {R : α → α → Prop} (h : ∀ a, R a a) (l : List α) : Rearranged R l l :=
  ⟨l, .refl l, List.forall₂_same.mpr fun a _ => h a⟩

/-- The sub-paths list their components in another order or more than once. -/
structure SubPath.Shuffled (s t : SubPath) : Prop where
  components : SameMembers s.components t.components
  rest : t = { s with components := t.components }

theorem SubPath.Shuffled.refl (s : SubPath) : s.Shuffled s := ⟨fun _ => Iff.rfl, rfl⟩

/-- The profiles list their subaction paths, sub-paths and components in another order; a subaction path or
a component may come more than once. -/
structure Profile.Shuffled (p q : Profile) : Prop where
  subactionPaths : SameMembers p.subactionPaths q.subactionPaths
  subPaths : Rearranged SubPath.Shuffled p.subPaths q.subPaths
  rest : q = { p with subactionPaths := q.subactionPaths, subPaths := q.subPaths }

theorem Profile.Shuffled.refl (p : Profile) : p.Shuffled p :=
  ⟨fun _ => Iff.rfl, .refl SubPath.Shuffled.refl _, rfl⟩

/-- The documents differ in order and repetition only. -/
def Document.Shuffled (d e : Document) : Prop := Rearranged Profile.Shuffled d.profiles e.profiles

/-- The sub-path is there under one of these subaction paths and binds a component to the enumerator. -/
def SubPath.Binds (subactionPaths : List String) (direction : Direction) (name : String) (s : SubPath) :
    Prop :=
  (∃ subaction ∈ subactionPaths, s.appliesTo subaction = true) ∧
    ∃ component ∈ s.components, .ofComponent component = direction ∧ s.binding component = .bound name

theorem Profile.exists_expand_iff {p : Profile} {direction : Direction} {name : String} :
    (∃ c ∈ p.expand, c.direction = direction ∧ c.binding = .bound name) ↔
      ∃ s ∈ p.subPaths, s.Binds p.subactionPaths direction name := by
  constructor
  · rintro ⟨c, hc, hdirection, hbound⟩
    obtain ⟨hsubaction, hsubPath, happlies, hname⟩ := mem_expand.mp hc
    exact ⟨c.subPath, hsubPath, ⟨c.subaction, hsubaction, happlies⟩, c.name, hname, hdirection, hbound⟩
  · rintro ⟨s, hs, ⟨subaction, hsubaction, happlies⟩, component, hcomponent, hdirection, hbound⟩
    exact ⟨⟨subaction, s, component⟩, mem_expand.mpr ⟨hsubaction, hs, happlies, hcomponent⟩, hdirection, hbound⟩

theorem SubPath.Shuffled.binds_iff {s t : SubPath} (h : s.Shuffled t) {l m : List String}
    (hl : SameMembers l m) {direction : Direction} {name : String} :
    s.Binds l direction name ↔ t.Binds m direction name := by
  obtain ⟨hcomponents, hrest⟩ := h
  rw [hrest]
  exact and_congr hl.exists_mem_iff hcomponents.exists_mem_iff

namespace EnumeratorNames

theorem binds_iff_of_shuffled {d e : Document} (h : d.Shuffled e) {direction : Direction} {name : String} :
    Binds d direction name ↔ Binds e direction name := by
  refine Rearranged.exists_mem_iff h fun p q hpq => ?_
  rw [Profile.exists_expand_iff, Profile.exists_expand_iff]
  exact hpq.subPaths.exists_mem_iff fun s t hst => hst.binds_iff hpq.subactionPaths

/-- The enumerators do not depend on the order of a document, nor on that of the extra inputs. -/
theorem ofDocument_eq_of_shuffled {d e : Document} (h : d.Shuffled e) {l m : List String}
    (hl : SameMembers l m) : ofDocument d l = ofDocument e m := by
  have hinputs : (ofDocument d l).inputs = (ofDocument e m).inputs := Sorted.Set.ext_mem fun name => by
    rw [mem_inputs, mem_inputs, binds_iff_of_shuffled h, hl name]
  have houtputs : (ofDocument d l).outputs = (ofDocument e m).outputs := Sorted.Set.ext_mem fun name => by
    rw [mem_outputs, mem_outputs, binds_iff_of_shuffled h]
  exact congrArg₂ EnumeratorNames.mk hinputs houtputs

/-- The bytes of the enumerators of one direction are in ascending order. -/
theorem pairwise_utf8 (names : EnumeratorNames) (direction : Direction) :
    ((names.of direction).toList.map Text.utf8).Pairwise (· < ·) :=
  List.pairwise_map.mpr ((names.of direction).ascending.imp Text.utf8_lt_utf8)

end EnumeratorNames

end ProfileBindings
