import ProfileBindings.Proofs.C.Literal

/-!
# Statements of C

The part of the language that the generated functions are written in: `return`, `if` with and without
`else`, `switch` with labels, and blocks. Expressions are constants, names, calls of `strcmp`, and
comparisons with `==`. Trees that are none of these are refused.

* `Expr`, `Expr.read?` : expressions, read from trees;
* `Stmt`, `Stmt.read?`, `Stmt.readAll?` : statements, read from the trees of a function body;
* `Stands`, `StandsAll` : the trees are a statement, or a row of statements, with enough fuel.

Main statements: one law of `Stands` for each kind of statement, and `StandsAll.cons`.
-/

namespace ProfileBindings.C

/-- The tree is this punctuator. -/
def Tree.isMark (spelling : String) : Tree → Bool
  | .mark other => other == spelling
  | _ => false

/-- The trees in front of the first one that is this punctuator, and those behind it. -/
def upToMark? (spelling : String) : List Tree → Option (List Tree × List Tree)
  | [] => none
  | t :: rest =>
    if t.isMark spelling then some ([], rest)
    else (upToMark? spelling rest).map fun found => (t :: found.1, found.2)

/-- The pieces between commas. -/
def commaParts (ts : List Tree) : List (List Tree) := ts.splitOnP (Tree.isMark ",")

/-- The value of a decimal constant. A zero in front would make it an octal one; these are not covered. -/
def constant? (digits : List Char) : Option Nat :=
  if digits = ['0'] then some 0
  else if digits.head? = some '0' then none
  else if !digits.isEmpty && digits.all Char.isDigit then some (Nat.ofDigitChars 10 digits 0)
  else none

/-! ## Expressions -/

inductive Expr where
  | constant (n : Nat)
  | text (bytes : List UInt8)
  | name (spelling : String)
  | strcmp (a b : Expr)
  | equal (a b : Expr)
deriving DecidableEq, Repr

namespace Expr

/-- A constant, a literal or a name. -/
def atom? : Tree → Option Expr
  | .number digits => (constant? digits.toList).map constant
  | .text spelling => (Literal.decode spelling).map text
  | .word spelling => some (name spelling)
  | _ => none

/-- An atom, or a call of `strcmp` on two of them. -/
def operand? : List Tree → Option Expr
  | [t] => atom? t
  | [.word "strcmp", .group .round arguments] =>
    match commaParts arguments with
    | [[a], [b]] => do return strcmp (← atom? a) (← atom? b)
    | _ => none
  | _ => none

/-- An operand, or a comparison of two. -/
def read? (ts : List Tree) : Option Expr :=
  match upToMark? "==" ts with
  | some (a, b) => do return equal (← operand? a) (← operand? b)
  | none => operand? ts

end Expr

/-! ## Statements -/

/-- A block is the sequence of its statements. A label is a statement of its own; the default label has no
expression. -/
inductive Stmt where
  | skip
  | label (value : Option Expr)
  | ret (value : Expr)
  | branch (condition : Expr) (yes no : Stmt)
  | switch (value : Expr) (body : Stmt)
  | seq (first rest : Stmt)
deriving DecidableEq, Repr

namespace Stmt

mutual

/-- One statement, and the trees behind it. The fuel bounds the depth of the statement. -/
def read? : Nat → List Tree → Option (Stmt × List Tree)
  | 0, _ => none
  | fuel + 1, ts =>
    match ts with
    | .word "return" :: rest => do
      let (value, rest) ← upToMark? ";" rest
      return (ret (← Expr.read? value), rest)
    | .word "case" :: rest => do
      let (value, rest) ← upToMark? ":" rest
      return (label (some (← Expr.read? value)), rest)
    | .word "default" :: .mark ":" :: rest => some (label none, rest)
    | .word "switch" :: .group .round value :: rest => do
      let value ← Expr.read? value
      let (body, rest) ← read? fuel rest
      return (switch value body, rest)
    | .word "if" :: .group .round condition :: rest => do
      let condition ← Expr.read? condition
      let (yes, rest) ← read? fuel rest
      match rest with
      | .word "else" :: rest => do
        let (no, rest) ← read? fuel rest
        return (branch condition yes no, rest)
      | rest => return (branch condition yes skip, rest)
    | .group .curly inside :: rest => (readAll? fuel inside).map (·, rest)
    | _ => none

/-- Statements up to the end of the trees. -/
def readAll? : Nat → List Tree → Option Stmt
  | 0, _ => none
  | _ + 1, [] => some skip
  | fuel + 1, t :: ts => do
    let (first, rest) ← read? fuel (t :: ts)
    return seq first (← readAll? fuel rest)

end

/-- The labels of a statement, the default one left out. Those of a `switch` belong to the `switch`. -/
def labels : Stmt → List Expr
  | skip => []
  | label value => value.toList
  | ret _ => []
  | branch _ yes no => yes.labels ++ no.labels
  | switch _ _ => []
  | seq first rest => first.labels ++ rest.labels

/-- The expressions that a statement may return. -/
def returns : Stmt → List Expr
  | skip => []
  | label _ => []
  | ret value => [value]
  | branch _ yes no => yes.returns ++ no.returns
  | switch _ body => body.returns
  | seq first rest => first.returns ++ rest.returns

/-- The labels of each `switch` in a statement. -/
def switches : Stmt → List (List Expr)
  | skip => []
  | label _ => []
  | ret _ => []
  | branch _ yes no => yes.switches ++ no.switches
  | switch _ body => body.labels :: body.switches
  | seq first rest => first.switches ++ rest.switches

end Stmt

/-! ## Where a statement ends -/

theorem upToMark?_append {spelling : String} {before : List Tree}
    (h : ∀ t ∈ before, t.isMark spelling = false) (rest : List Tree) :
    upToMark? spelling (before ++ .mark spelling :: rest) = some (before, rest) := by
  induction before with
  | nil => simp [upToMark?, Tree.isMark]
  | cons t before ih =>
    have ht : t.isMark spelling = false := h t List.mem_cons_self
    have hrest := ih fun t' ht' => h t' (List.mem_cons_of_mem t ht')
    simp [upToMark?, ht, hrest]

theorem length_tokensOf_pos {ts : List Tree} (h : ts ≠ []) : 0 < (Tree.tokensOf ts).length := by
  cases ts with
  | nil => exact absurd rfl h
  | cons t ts => cases t <;> simp [Tree.tokensOf, Tree.tokens]

/-- The trees are one statement, whatever stands behind it; an `else` would be a part of it. -/
def Stands (ts : List Tree) (s : Stmt) : Prop :=
  ∀ fuel rest, (Tree.tokensOf ts).length ≤ fuel → rest.head? ≠ some (.word "else") →
    Stmt.read? fuel (ts ++ rest) = some (s, rest)

/-- The trees are statements, up to their end. -/
def StandsAll (ts : List Tree) (s : Stmt) : Prop :=
  ts.head? ≠ some (.word "else") ∧
    ∀ fuel, (Tree.tokensOf ts).length < fuel → Stmt.readAll? fuel ts = some s

namespace Stands

variable {ts us inside value condition : List Tree} {s s' : Stmt} {e : Expr}

/-- A statement is not empty. -/
theorem ne_nil (h : Stands ts s) : ts ≠ [] := by
  rintro rfl
  -- No statement is read from no trees, whatever the fuel.
  have hread := h 1 [] (by simp [Tree.tokensOf]) (by simp)
  simp [Stmt.read?] at hread

/-- No statement begins with `else`. -/
theorem head?_ne_else (h : Stands ts s) : ts.head? ≠ some (.word "else") := by
  intro hhead
  obtain ⟨rest, rfl⟩ := List.head?_eq_some_iff.mp hhead
  have hread := h _ [] (Nat.le_succ _) (by simp)
  simp [Stmt.read?] at hread

theorem ret (hv : ∀ t ∈ value, t.isMark ";" = false) (he : Expr.read? value = some e) :
    Stands (.word "return" :: (value ++ [.mark ";"])) (.ret e) := by
  intro fuel rest hfuel _
  rw [Tree.length_tokensOf_leaf] at hfuel
  obtain ⟨fuel, rfl⟩ : ∃ n, fuel = n + 1 := ⟨fuel - 1, by omega⟩
  simp [Stmt.read?, upToMark?_append hv, he]

theorem label (hv : ∀ t ∈ value, t.isMark ":" = false) (he : Expr.read? value = some e) :
    Stands (.word "case" :: (value ++ [.mark ":"])) (.label (some e)) := by
  intro fuel rest hfuel _
  rw [Tree.length_tokensOf_leaf] at hfuel
  obtain ⟨fuel, rfl⟩ : ∃ n, fuel = n + 1 := ⟨fuel - 1, by omega⟩
  simp [Stmt.read?, upToMark?_append hv, he]

theorem fallback : Stands [.word "default", .mark ":"] (.label none) := by
  intro fuel rest hfuel _
  rw [Tree.length_tokensOf_leaf] at hfuel
  obtain ⟨fuel, rfl⟩ : ∃ n, fuel = n + 1 := ⟨fuel - 1, by omega⟩
  simp [Stmt.read?]

theorem block (h : StandsAll inside s) : Stands [.group .curly inside] s := by
  intro fuel rest hfuel _
  rw [Tree.length_tokensOf_group] at hfuel
  obtain ⟨fuel, rfl⟩ : ∃ n, fuel = n + 1 := ⟨fuel - 1, by omega⟩
  simp [Stmt.read?, h.2 fuel (by omega)]

theorem switch (he : Expr.read? value = some e) (h : Stands ts s) :
    Stands (.word "switch" :: .group .round value :: ts) (.switch e s) := by
  intro fuel rest hfuel hrest
  rw [Tree.length_tokensOf_leaf, Tree.length_tokensOf_group] at hfuel
  obtain ⟨fuel, rfl⟩ : ∃ n, fuel = n + 1 := ⟨fuel - 1, by omega⟩
  simp [Stmt.read?, he, h fuel rest (by omega) hrest]

/-- An `if` without `else`. -/
theorem branch (he : Expr.read? condition = some e) (h : Stands ts s) :
    Stands (.word "if" :: .group .round condition :: ts) (.branch e s .skip) := by
  intro fuel rest hfuel hrest
  rw [Tree.length_tokensOf_leaf, Tree.length_tokensOf_group] at hfuel
  obtain ⟨fuel, rfl⟩ : ∃ n, fuel = n + 1 := ⟨fuel - 1, by omega⟩
  simp only [List.cons_append, Stmt.read?, he, h fuel rest (by omega) hrest, Option.bind_eq_bind,
    Option.bind_some]
  -- What stands behind is no `else`, so the branch ends here.
  split
  · exact absurd rfl hrest
  · rfl

/-- An `if` with `else`, the first branch in braces. -/
theorem branchElse (he : Expr.read? condition = some e) (hyes : StandsAll inside s)
    (hno : Stands us s') :
    Stands (.word "if" :: .group .round condition :: .group .curly inside :: .word "else" :: us)
      (.branch e s s') := by
  intro fuel rest hfuel hrest
  rw [Tree.length_tokensOf_leaf, Tree.length_tokensOf_group, Tree.length_tokensOf_group,
    Tree.length_tokensOf_leaf] at hfuel
  obtain ⟨fuel, rfl⟩ : ∃ n, fuel = n + 2 := ⟨fuel - 2, by omega⟩
  -- `Stands.block` does not apply in front of an `else`; the braces end the block all the same.
  have hblock : Stmt.read? (fuel + 1) (.group .curly inside :: .word "else" :: (us ++ rest))
      = some (s, .word "else" :: (us ++ rest)) := by
    simp [Stmt.read?, hyes.2 fuel (by omega)]
  simp only [List.cons_append]
  rw [Stmt.read?]
  simp [he, hblock, hno (fuel + 1) rest (by omega) hrest]

end Stands

namespace StandsAll

variable {ts us : List Tree} {s s' : Stmt}

theorem nil : StandsAll [] .skip := by
  refine ⟨by simp, fun fuel hfuel => ?_⟩
  obtain ⟨fuel, rfl⟩ : ∃ n, fuel = n + 1 := ⟨fuel - 1, by omega⟩
  rfl

theorem cons (h : Stands ts s) (hs : StandsAll us s') : StandsAll (ts ++ us) (.seq s s') := by
  obtain ⟨t, ts', rfl⟩ := List.exists_cons_of_ne_nil h.ne_nil
  refine ⟨by simpa using h.head?_ne_else, fun fuel hfuel => ?_⟩
  -- The first statement has a token, so that the rest is read with less fuel.
  have hpos := length_tokensOf_pos h.ne_nil
  rw [Tree.tokensOf_append, List.length_append] at hfuel
  obtain ⟨fuel, rfl⟩ : ∃ n, fuel = n + 1 := ⟨fuel - 1, by omega⟩
  have hfirst := h fuel us (by omega) hs.1
  rw [List.cons_append] at hfirst ⊢
  simp [Stmt.readAll?, hfirst, hs.2 fuel (by omega)]

/-- A single statement. -/
theorem one (h : Stands ts s) : StandsAll ts (.seq s .skip) := by
  simpa using cons h nil

end StandsAll

/-! ## Constants -/

/-- The first digit of a numeral is a zero only if the number is zero. -/
theorem head?_toDigits {n : Nat} (h : 0 < n) : (Nat.toDigits 10 n).head? ≠ some '0' := by
  induction n using Nat.strongRecOn with
  | ind n ih =>
    by_cases hn : n < 10
    · rw [Nat.toDigits_of_lt_base hn]
      have hdigit : ∀ k, k < 10 → 0 < k → [Nat.digitChar k].head? ≠ some '0' := by decide
      exact hdigit n hn h
    · -- The first digit is that of the number without its last digit.
      rw [Nat.toDigits_of_base_le (by decide) (by omega)]
      rw [List.head?_append_of_ne_nil _ Nat.toDigits_ne_nil]
      exact ih (n / 10) (by omega) (by omega)

/-- A numeral stands for its number. -/
theorem constant?_toString (n : Nat) : constant? (toString n).toList = some n := by
  rcases Nat.eq_zero_or_pos n with rfl | hn
  · rfl
  · have hchars : (toString n).toList = Nat.toDigits 10 n := by simp
    have hhead := head?_toDigits hn
    have hne : Nat.toDigits 10 n ≠ ['0'] := fun h => hhead (by rw [h]; rfl)
    have hall : (Nat.toDigits 10 n).all Char.isDigit = true := by
      rw [List.all_eq_true]
      exact fun c hc => Nat.isDigit_of_mem_toDigits (by decide) (by decide) hc
    have hempty : (Nat.toDigits 10 n).isEmpty = false := by simp [Nat.toDigits_ne_nil]
    rw [hchars, constant?, if_neg hne, if_neg hhead, hall, hempty, if_pos (by decide),
      Nat.ofDigitChars_toDigits (by decide) (by decide)]

end ProfileBindings.C
