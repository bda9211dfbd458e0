import ProfileBindings.Proofs.C.Evaluation

/-!
# Signatures of C functions

A function that is declared and one that is defined have the same look up to the brackets behind the name:
what follows is a semicolon or a body. What stands in front of the name are words and stars, up to whatever
comes before them that is neither.

* `Signature` : a name, with what stands in front of it and what stands in the brackets behind it;
* `defined?`, `declared?` : the signatures of the functions that a text defines, or declares.

Main statements: `signaturesFrom_slash`, what has no brackets in it has no signature, and
`signaturesFrom_flatMap`, the signatures of parts in a row.
-/

namespace ProfileBindings.C

/-- The name of a function, the type of its result and its parameters. -/
structure Signature where
  name : String
  result : List Tree
  parameters : List Tree

/-- What behind the parameters tells a definition. -/
def Tree.isBody : Tree → Bool
  | .group .curly _ => true
  | _ => false

/-- The signatures of functions at the outermost level that end in a certain way; `result` are the words and
stars just passed. Any other token is passed over, also where it begins nothing in C, such as the lines of a banner
that are not inside a comment. -/
def signaturesFrom (ends : Tree → Bool) (result : List Tree) : List Tree → List Signature
  | [] => []
  | .word name :: rest =>
    match rest with
    | .group .round parameters :: t :: _ =>
      if ends t then ⟨name, result, parameters⟩ :: signaturesFrom ends [] rest
      else signaturesFrom ends (result ++ [.word name]) rest
    | _ => signaturesFrom ends (result ++ [.word name]) rest
  | .mark "*" :: rest => signaturesFrom ends (result ++ [.mark "*"]) rest
  | _ :: rest => signaturesFrom ends [] rest

/-- The signatures of the functions that a text defines. -/
def defined? (text : String) : Option (List Signature) := (trees? text).map (signaturesFrom Tree.isBody [])

/-- The signatures of the functions that a text declares without defining them. -/
def declared? (text : String) : Option (List Signature) :=
  (trees? text).map (signaturesFrom (Tree.isMark ";") [])

variable {ends : Tree → Bool}

/-- A leaf in front of a leaf begins no signature. -/
theorem signaturesFrom_leaf (result : List Tree) (a b : Atom) (ts : List Tree) :
    ∃ result', signaturesFrom ends result (.leaf a :: .leaf b :: ts) =
      signaturesFrom ends result' (.leaf b :: ts) := by
  cases a with
  | mark spelling =>
    by_cases hstar : spelling = "*"
    · subst hstar
      exact ⟨_, rfl⟩
    · refine ⟨[], ?_⟩
      rw [signaturesFrom.eq_def]
      simp [hstar]
  | _ => exact ⟨_, rfl⟩

/-- Up to a slash, leaves have no signature, and none begins in front of it. -/
theorem signaturesFrom_slash (result : List Tree) (atoms : List Atom) (ts : List Tree) :
    signaturesFrom ends result (atoms.map .leaf ++ .mark "/" :: ts) = signaturesFrom ends [] ts := by
  induction atoms generalizing result with
  | nil => rfl
  | cons a atoms ih =>
    -- Behind the first leaf stands another one, be it the slash.
    obtain ⟨b, bs, hrest⟩ : ∃ b bs, atoms.map Tree.leaf ++ .mark "/" :: ts = .leaf b :: bs := by
      cases atoms with
      | nil => exact ⟨_, ts, rfl⟩
      | cons b atoms => exact ⟨b, _, rfl⟩
    obtain ⟨result', hfirst⟩ := @signaturesFrom_leaf ends result a b bs
    rw [List.map_cons, List.cons_append, hrest, hfirst, ← hrest]
    exact ih result'

/-- Where each part has one signature and leaves nothing behind, parts in a row have theirs. -/
theorem signaturesFrom_flatMap {α : Type} {f : α → List Tree} {g : α → Signature}
    (h : ∀ a ts, signaturesFrom ends [] (f a ++ ts) = g a :: signaturesFrom ends [] ts) (l : List α)
    (ts : List Tree) :
    signaturesFrom ends [] (l.flatMap f ++ ts) = l.map g ++ signaturesFrom ends [] ts := by
  induction l with
  | nil => rfl
  | cons a l ih => rw [List.flatMap_cons, List.append_assoc, h, ih, List.map_cons, List.cons_append]

end ProfileBindings.C
