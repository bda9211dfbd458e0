import Mathlib.Data.List.Basic
import ProfileBindings.Proofs.C.Statement

/-!
# Initializers of C

What stands in braces behind a definition: elements between commas, of which each may set a field by name.

* `elements` : the elements of a braced list;
* `fields?`, `valueOf?` : the fields that a braced list sets, and the value of one;
* `definitionsIn` : the arrays of structures that are defined at the outermost level.

Main statements: `elements_flatMap` and `elements_flatMap_append`, a list with a comma behind each element,
the last one excepted or not, has these elements.
-/

namespace ProfileBindings.C

/-- The elements of a braced list. A comma may stand behind the last one. -/
def elements (ts : List Tree) : List (List Tree) :=
  match (commaParts ts).getLast? with
  | some [] => (commaParts ts).dropLast
  | _ => commaParts ts

/-- An element that sets a field: the field, and what it is set to. -/
def field? : List Tree → Option (String × List Tree)
  | .mark "." :: .word name :: .mark "=" :: value => some (name, value)
  | _ => none

/-- The fields that a braced list sets, if it sets nothing else. -/
def fields? (ts : List Tree) : Option (List (String × List Tree)) := (elements ts).mapM field?

/-- The value of a field. Where a field is set twice, the last value counts. -/
def valueOf? (fields : List (String × List Tree)) (name : String) : Option (List Tree) :=
  fields.reverse.lookup name

/-- What is read from the value of a field. -/
def fieldOf? {α : Type} (read? : List Tree → Option α) (fields : List (String × List Tree)) (name : String) :
    Option α :=
  (valueOf? fields name).bind read?

theorem fieldOf?_eq {α : Type} {read? : List Tree → Option α} {fields : List (String × List Tree)}
    {name : String} {value : List Tree} {a : α} (hvalue : valueOf? fields name = some value)
    (hread : read? value = some a) : fieldOf? read? fields name = some a :=
  Option.bind_eq_some_iff.mpr ⟨value, hvalue, hread⟩

/-- A definition of an array of structures with an initializer. -/
structure ArrayDefinition where
  /-- The tag of the structures. -/
  tag : String
  name : String
  size : List Tree
  initializer : List Tree

/-- The definitions of such arrays. What stands between them is passed over, tokens that begin nothing in C
included, such as the lines of a banner that are not inside a comment. -/
def definitionsIn : List Tree → List ArrayDefinition
  | [] => []
  | .word "struct" :: .word tag :: .word name :: .group .square size :: .mark "="
      :: .group .curly initializer :: rest => ⟨tag, name, size, initializer⟩ :: definitionsIn rest
  | _ :: rest => definitionsIn rest

/-! ## Values -/

/-- A string literal. -/
def text? : List Tree → Option (List UInt8)
  | [.text spelling] => Literal.decode spelling
  | _ => none

/-- A string literal, or no string. -/
def pointer? : List Tree → Option (Option (List UInt8))
  | [.word "NULL"] => some none
  | ts => (text? ts).map some

/-- A decimal constant. -/
def number? : List Tree → Option Nat
  | [.number digits] => constant? digits.toList
  | _ => none

/-- A name. -/
def name? : List Tree → Option String
  | [.word name] => some name
  | _ => none

/-! ## Elements that are known -/

variable {α : Type} {l : List α} {f : α → List Tree}

theorem commaParts_flatMap_append (h : ∀ a ∈ l, ∀ t ∈ f a, t.isMark "," = false) (rest : List Tree) :
    commaParts (l.flatMap (fun a => f a ++ [.mark ","]) ++ rest) = l.map f ++ commaParts rest := by
  induction l with
  | nil => rfl
  | cons a l ih =>
    have ha := h a List.mem_cons_self
    have ih' := ih fun b hb => h b (List.mem_cons_of_mem a hb)
    rw [List.flatMap_cons, List.append_assoc, List.append_assoc, List.singleton_append]
    unfold commaParts at ih' ⊢
    rw [List.splitOnP_append_cons_of_forall_mem ha _ rfl, ih']
    rfl

theorem elements_flatMap (h : ∀ a ∈ l, ∀ t ∈ f a, t.isMark "," = false) :
    elements (l.flatMap fun a => f a ++ [.mark ","]) = l.map f := by
  -- Behind the last comma one more piece begins, which is empty and is no element.
  have hparts := commaParts_flatMap_append h []
  rw [List.append_nil] at hparts
  have hnil : commaParts [] = [[]] := rfl
  simp [elements, hparts, hnil]

theorem elements_flatMap_append (h : ∀ a ∈ l, ∀ t ∈ f a, t.isMark "," = false) {last : List Tree}
    (hlast : ∀ t ∈ last, t.isMark "," = false) (hne : last ≠ []) :
    elements (l.flatMap (fun a => f a ++ [.mark ","]) ++ last) = l.map f ++ [last] := by
  have hone : commaParts last = [last] := List.splitOnP_eq_singleton hlast
  obtain ⟨t, ts, rfl⟩ := List.exists_cons_of_ne_nil hne
  simp [elements, commaParts_flatMap_append h, hone]

/-- Reading succeeds on a list where it succeeds on every element. -/
theorem mapM_eq_some_map {α β : Type} {f : α → Option β} {g : α → β} {l : List α}
    (h : ∀ a ∈ l, f a = some (g a)) : l.mapM f = some (l.map g) := by
  induction l with
  | nil => rfl
  | cons a l ih =>
    have ha := h a List.mem_cons_self
    have ih' := ih fun b hb => h b (List.mem_cons_of_mem a hb)
    simp [ha, ih']

/-! ## Records that are known -/

/-- A field that is set. -/
def fieldTrees (name : String) (value : List Tree) : List Tree :=
  .mark "." :: .word name :: .mark "=" :: value

/-- Fields that are set, each with a comma behind it. -/
def recordTrees (fields : List (String × List Tree)) : List Tree :=
  fields.flatMap fun field => fieldTrees field.1 field.2 ++ [.mark ","]

theorem fields?_recordTrees {fields : List (String × List Tree)}
    (h : ∀ field ∈ fields, ∀ t ∈ field.2, t.isMark "," = false) :
    fields? (recordTrees fields) = some fields := by
  have hcomma : ∀ field ∈ fields, ∀ t ∈ fieldTrees field.1 field.2, t.isMark "," = false := by
    intro field hfield t ht
    simp only [fieldTrees, List.mem_cons] at ht
    rcases ht with rfl | rfl | rfl | ht
    · rfl
    · rfl
    · rfl
    · exact h field hfield t ht
  unfold fields? recordTrees
  rw [elements_flatMap hcomma, List.mapM_map]
  have hread := mapM_eq_some_map (l := fields) (g := id)
    fun field _ => (rfl : field? (fieldTrees field.1 field.2) = some field)
  rwa [List.map_id] at hread

end ProfileBindings.C
