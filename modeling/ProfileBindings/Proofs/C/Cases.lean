import ProfileBindings.Proofs.C.Evaluation

/-!
# The cases of a `switch`

What is compared behind each label of a `switch`, up to the next label.

* `Expr.compared`, `Stmt.compared` : the literals that `strcmp` is called with, in the order of the text;
* `Stmt.row` : the statements of a block;
* `casesIn`, `Function.cases?` : the labels of a `switch`, each with the literals behind it.

Main statement: `casesIn_cases`, the cases of a `switch` that is known.
-/

namespace ProfileBindings.C

/-- The bytes of a literal. -/
def Expr.literal? : Expr → Option (List UInt8)
  | .text bytes => some bytes
  | _ => none

/-- The literals that `strcmp` is called with. -/
def Expr.compared : Expr → List (List UInt8)
  | .strcmp a b => a.literal?.toList ++ b.literal?.toList
  | .equal a b => a.compared ++ b.compared
  | _ => []

namespace Stmt

/-- The literals that `strcmp` is called with, in the order of the text. -/
def compared : Stmt → List (List UInt8)
  | skip => []
  | label _ => []
  | ret value => value.compared
  | branch condition yes no => condition.compared ++ yes.compared ++ no.compared
  | switch value body => value.compared ++ body.compared
  | seq first rest => first.compared ++ rest.compared

/-- The statements of a block. -/
def row : Stmt → List Stmt
  | skip => []
  | seq first rest => first :: rest.row
  | s => [s]

/-- The bodies of the outermost `switch`es. -/
def switchBodies : Stmt → List Stmt
  | branch _ yes no => yes.switchBodies ++ no.switchBodies
  | switch _ body => [body]
  | seq first rest => first.switchBodies ++ rest.switchBodies
  | _ => []

/-- The statement is a label. -/
def isLabel : Stmt → Bool
  | label _ => true
  | _ => false

end Stmt

/-- The labels among statements, each with the literals that are compared with behind it. The default label
has no value. -/
def casesIn : List Stmt → List (Option Expr × List (List UInt8))
  | [] => []
  | .label value :: rest =>
    (value, (rest.takeWhile fun s => !s.isLabel).flatMap Stmt.compared) :: casesIn rest
  | _ :: rest => casesIn rest

/-- The cases of each `switch` of a function. -/
def Function.cases? (f : Function) : Option (List (List (Option Expr × List (List UInt8)))) :=
  f.code?.map fun code => code.switchBodies.map fun body => casesIn body.row

/-! ## Cases that are known -/

theorem row_cases (entries : List (Expr × Stmt)) (fallback : Stmt) : (Stmt.cases entries fallback).row
    = entries.flatMap (fun entry => [.label (some entry.1), entry.2]) ++ [.label none, fallback] := by
  induction entries with
  | nil => rfl
  | cons entry entries ih =>
    rw [List.flatMap_cons, List.append_assoc, ← ih]
    rfl

/-- A label, the statement behind it, and what begins with the next label. -/
theorem casesIn_label {value : Option Expr} {s : Stmt} (hs : Unlabelled s) {rest : List Stmt}
    (hrest : ∀ t ∈ rest.head?, t.isLabel = true) :
    casesIn (.label value :: s :: rest) = (value, s.compared) :: casesIn rest := by
  have hlabel : s.isLabel = false := by cases hs <;> rfl
  have hnext : rest.takeWhile (fun t => !t.isLabel) = [] := by
    cases rest with
    | nil => rfl
    | cons t rest => simp [hrest t rfl]
  have hskip : casesIn (s :: rest) = casesIn rest := by cases hs <;> rfl
  rw [casesIn, List.takeWhile_cons_of_pos (by simp [hlabel]), hnext, hskip, List.flatMap_singleton]

/-- Behind each label of the cases stands one statement. -/
theorem casesIn_cases {entries : List (Expr × Stmt)} {fallback : Stmt}
    (hentries : ∀ entry ∈ entries, Unlabelled entry.2) (hfallback : Unlabelled fallback) :
    casesIn (Stmt.cases entries fallback).row
      = entries.map (fun entry => (some entry.1, entry.2.compared)) ++ [(none, fallback.compared)] := by
  rw [row_cases]
  induction entries with
  | nil => exact casesIn_label hfallback (by simp)
  | cons entry entries ih =>
    obtain ⟨hentry, hrest⟩ := List.forall_mem_cons.mp hentries
    -- Behind the statement comes the next label, if only the default one.
    have hnext : ∀ t ∈ (entries.flatMap (fun entry => [Stmt.label (some entry.1), entry.2])
        ++ [.label none, fallback]).head?, t.isLabel = true := by
      cases entries <;> simp [Stmt.isLabel]
    rw [List.flatMap_cons, List.append_assoc, List.map_cons, List.cons_append (a := (some _, _)), ← ih hrest]
    exact casesIn_label hentry hnext

end ProfileBindings.C
