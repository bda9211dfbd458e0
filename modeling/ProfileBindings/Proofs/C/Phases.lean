import Mathlib.Data.List.Basic

/-!
# The first translation phases of C

Before a C text is cut into tokens, its trigraphs are replaced, and a backslash in front of a newline is
deleted together with the newline. Both happen everywhere, in comments and in literals too.

* `replaceTrigraphs`, `joinLines` : the two phases;
* `phases` : both of them;
* `Calm` : a text that the phases leave alone, whatever stands behind it.

Main statements:
* `phases_cons` : a character stands for itself unless it is half of a pair that means something else;
* `phases_append_quote` : a text without quotes stays one, up to the quote behind it;
* `phases_append_newline` : a line may swallow the newline behind it, and nothing else.
-/

namespace ProfileBindings.C

/-- What a trigraph with this last character stands for. -/
def trigraph? : Char → Option Char
  | '=' => some '#'
  | '/' => some '\\'
  | '\'' => some '^'
  | '(' => some '['
  | ')' => some ']'
  | '!' => some '|'
  | '<' => some '\x7b'
  | '>' => some '\x7d'
  | '-' => some '~'
  | _ => none

/-- The text with its trigraphs replaced. -/
def replaceTrigraphs : List Char → List Char
  | [] => []
  | '?' :: '?' :: c :: rest =>
    match trigraph? c with
    | some meant => meant :: replaceTrigraphs rest
    | none => '?' :: replaceTrigraphs ('?' :: c :: rest)
  | c :: rest => c :: replaceTrigraphs rest

/-- The text with its lines joined where a backslash ends one. -/
def joinLines : List Char → List Char
  | [] => []
  | '\\' :: '\n' :: rest => joinLines rest
  | c :: rest => c :: joinLines rest

/-- The text after both phases. -/
def phases (cs : List Char) : List Char := joinLines (replaceTrigraphs cs)

/-- The phases leave the text alone, whatever follows. -/
def Calm (cs : List Char) : Prop := ∀ rest, phases (cs ++ rest) = cs ++ phases rest

/-! ## One character at a time -/

theorem replaceTrigraphs_cons {c : Char} {rest : List Char}
    (h : c = '?' → rest.head? ≠ some '?') :
    replaceTrigraphs (c :: rest) = c :: replaceTrigraphs rest := by
  rw [replaceTrigraphs.eq_def]
  split
  · contradiction
  · next heq =>
    obtain ⟨rfl, rfl⟩ := List.cons.inj heq
    exact absurd rfl (h rfl)
  · next heq =>
    obtain ⟨rfl, rfl⟩ := List.cons.inj heq
    rfl

theorem joinLines_cons {c : Char} {rest : List Char} (h : c = '\\' → rest.head? ≠ some '\n') :
    joinLines (c :: rest) = c :: joinLines rest := by
  rw [joinLines.eq_def]
  split
  · contradiction
  · next heq =>
    obtain ⟨rfl, rfl⟩ := List.cons.inj heq
    exact absurd rfl (h rfl)
  · next heq =>
    obtain ⟨rfl, rfl⟩ := List.cons.inj heq
    rfl

/-- No trigraph stands for a newline. -/
theorem trigraph?_ne_newline (c : Char) : trigraph? c ≠ some '\n' := by
  unfold trigraph?
  split <;> simp

/-- No trigraph stands for a quote. -/
theorem trigraph?_ne_quote (c : Char) : trigraph? c ≠ some '"' := by
  unfold trigraph?
  split <;> simp

theorem head?_replaceTrigraphs_ne_newline {cs : List Char} (h : cs.head? ≠ some '\n') :
    (replaceTrigraphs cs).head? ≠ some '\n' := by
  rw [replaceTrigraphs.eq_def]
  split
  · simp
  · next c rest =>
    split
    · next meant hm =>
      -- The head is what a trigraph stands for.
      intro he
      have hmeant : meant = '\n' := by simpa using he
      exact trigraph?_ne_newline c (hmeant ▸ hm)
    · simp
  · simpa using h

theorem phases_cons {c : Char} {rest : List Char} (hq : c = '?' → rest.head? ≠ some '?')
    (hb : c = '\\' → rest.head? ≠ some '\n') : phases (c :: rest) = c :: phases rest := by
  unfold phases
  rw [replaceTrigraphs_cons hq]
  exact joinLines_cons fun hc => head?_replaceTrigraphs_ne_newline (hb hc)

/-! ## Texts that are left alone -/

/-- The character takes no part in a pair: it is neither a question mark nor a backslash. -/
def isLoner (c : Char) : Bool := c != '?' && c != '\\'

theorem phases_cons_of_isLoner {c : Char} (h : isLoner c = true) (rest : List Char) :
    phases (c :: rest) = c :: phases rest := by
  have h' : c ≠ '?' ∧ c ≠ '\\' := by simpa [isLoner] using h
  exact phases_cons (fun hc => absurd hc h'.1) (fun hc => absurd hc h'.2)

theorem calm_of_loners {cs : List Char} (h : cs.all isLoner = true) : Calm cs := by
  intro rest
  induction cs with
  | nil => rfl
  | cons c cs ih =>
    have h' : isLoner c = true ∧ cs.all isLoner = true := by simpa using h
    rw [List.cons_append, phases_cons_of_isLoner h'.1, ih h'.2, List.cons_append]

/-! ## Texts of which only the end is known

A text from outside may hold trigraphs, and it may end in a backslash. What is known of it is a character
that it does not contain and that stands behind it.
-/

theorem replaceTrigraphs_append_cons {c : Char} (hq : c ≠ '?') (ht : trigraph? c = none)
    (cs rest : List Char) :
    replaceTrigraphs (cs ++ c :: rest) = replaceTrigraphs cs ++ c :: replaceTrigraphs rest := by
  fun_induction replaceTrigraphs cs with
  | case1 => exact replaceTrigraphs_cons fun h => absurd h hq
  | case2 d cs meant hm ih =>
    simp only [List.cons_append, replaceTrigraphs, hm, ih]
  | case3 d cs hm ih =>
    simp only [List.cons_append, replaceTrigraphs, hm] at ih ⊢
    rw [ih]
  | case4 d cs hd ih =>
    rw [List.cons_append, List.cons_append, ← ih]
    by_cases hpair : d = '?' ∧ cs = ['?']
    · -- two question marks at the end, and `c` makes no trigraph of them
      obtain ⟨rfl, rfl⟩ := hpair
      simp only [List.cons_append, List.nil_append, replaceTrigraphs, ht]
    · refine replaceTrigraphs_cons fun hdq => ?_
      -- How much of the text is left decides where the character behind `d` comes from.
      rcases cs with _ | ⟨a, _ | ⟨b, cs⟩⟩
      · simpa using hq
      · simpa [hdq] using hpair
      · simpa using fun ha : a = '?' => hd b cs hdq (by rw [ha])

theorem not_mem_replaceTrigraphs {x : Char} (hx : ∀ c, trigraph? c ≠ some x) {cs : List Char}
    (h : x ∉ cs) : x ∉ replaceTrigraphs cs := by
  fun_induction replaceTrigraphs cs with
  | case1 => exact h
  | case2 c cs meant hm ih =>
    have hne : x ≠ meant := fun e => hx c (e ▸ hm)
    have hrest : x ∉ cs := fun hmem => h (by simp [hmem])
    simp [hne, ih hrest]
  | case3 c cs hm ih =>
    have hne : x ≠ '?' := fun e => h (by simp [e])
    have hrest : x ∉ '?' :: c :: cs := fun hmem => h (List.mem_cons_of_mem _ hmem)
    exact List.not_mem_cons_of_ne_of_not_mem hne (ih hrest)
  | case4 c cs _ ih =>
    have hne : x ≠ c := fun e => h (by simp [e])
    have hrest : x ∉ cs := fun hmem => h (List.mem_cons_of_mem _ hmem)
    exact List.not_mem_cons_of_ne_of_not_mem hne (ih hrest)

theorem joinLines_append {cs rest : List Char} (h : '\n' ∉ cs)
    (hend : cs.getLast? = some '\\' → rest.head? ≠ some '\n') :
    joinLines (cs ++ rest) = cs ++ joinLines rest := by
  induction cs with
  | nil => rfl
  | cons c cs ih =>
    have hcs : '\n' ∉ cs := fun hmem => h (List.mem_cons_of_mem _ hmem)
    cases cs with
    | nil => exact joinLines_cons fun hc => hend (by simp [hc])
    | cons d cs =>
      have hd : d ≠ '\n' := fun e => hcs (by simp [e])
      rw [List.cons_append, joinLines_cons (by simp [hd]), ih hcs (by simpa using hend)]
      rfl

/-- A text on one line, in front of a quote, becomes such a text. -/
theorem phases_append_quote {cs : List Char} (hn : '\n' ∉ cs) (hq : '"' ∉ cs) :
    ∃ ds, '\n' ∉ ds ∧ '"' ∉ ds ∧
      ∀ rest, phases (cs ++ '"' :: rest) = ds ++ '"' :: phases rest := by
  have hn' := not_mem_replaceTrigraphs trigraph?_ne_newline hn
  refine ⟨replaceTrigraphs cs, hn', not_mem_replaceTrigraphs trigraph?_ne_quote hq, fun rest => ?_⟩
  unfold phases
  rw [replaceTrigraphs_append_cons (by decide) (by decide), joinLines_append hn' (by simp),
    joinLines_cons (by simp)]

/-- A line keeps its newline, unless it ends in a backslash: then it loses both. -/
theorem phases_append_newline {cs : List Char} (hn : '\n' ∉ cs) :
    ∃ ds, '\n' ∉ ds ∧
      ((∀ rest, phases (cs ++ '\n' :: rest) = ds ++ '\n' :: phases rest) ∨
        ∀ rest, phases (cs ++ '\n' :: rest) = ds ++ phases rest) := by
  have hn' := not_mem_replaceTrigraphs trigraph?_ne_newline hn
  have hsplit : ∀ rest, phases (cs ++ '\n' :: rest)
      = joinLines (replaceTrigraphs cs ++ '\n' :: replaceTrigraphs rest) := by
    intro rest
    unfold phases
    rw [replaceTrigraphs_append_cons (by decide) (by decide)]
  -- Only the last character matters, and it may come from a trigraph.
  by_cases hend : (replaceTrigraphs cs).getLast? = some '\\'
  · obtain ⟨ds, hds⟩ := List.getLast?_eq_some_iff.mp hend
    have hnd : '\n' ∉ ds := fun hmem => hn' (by simp [hds, hmem])
    refine ⟨ds, hnd, Or.inr fun rest => ?_⟩
    rw [hsplit, hds, List.append_assoc, joinLines_append hnd (by simp)]
    rfl
  · refine ⟨replaceTrigraphs cs, hn', Or.inl fun rest => ?_⟩
    rw [hsplit, joinLines_append hn' (fun h => absurd h hend), joinLines_cons (by simp)]
    rfl

end ProfileBindings.C
