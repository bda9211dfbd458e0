import Mathlib.Data.List.Infix
import ProfileBindings.Proofs.C.Literal

/-!
# What escaping gives

An escaped text is a row of units: characters that stand for themselves, short escapes, and octal escapes of
three digits. It holds nothing that a literal must not hold, and C takes every escape back.

* `IsUnit` : a unit of an escaped text.

Main statements:
* `exists_units_escape` : an escaped text is made of units;
* `no_pair_in_escape` : no two question marks stand side by side in it;
* `escape_undone` : between quotes it is one literal, which stands for the text.
-/

namespace ProfileBindings.C.Literal

/-- A unit of an escaped text. A quote comes behind a backslash only, and a backslash begins an escape. -/
inductive IsUnit : List Char → Prop where
  | plain {c : Char} (hquote : c ≠ '"') (hbackslash : c ≠ '\\') (hcontrol : isControl c = false) : IsUnit [c]
  | short {c : Char} (hc : c ∈ ['\\', '"', 'n', 'r', 't', '?']) : IsUnit ['\\', c]
  | octal {a b c : Char} (hdigits : ∀ d ∈ [a, b, c], '0' ≤ d ∧ d ≤ '7') : IsUnit ['\\', a, b, c]

/-! ## Units -/

theorem octal_digitChar : ∀ n, n < 8 → '0' ≤ Nat.digitChar n ∧ Nat.digitChar n ≤ '7' := by
  decide

theorem isUnit_octal3 (n : Nat) : IsUnit ('\\' :: octal3 n) := by
  have hdigit : ∀ k, '0' ≤ Nat.digitChar (k % 8) ∧ Nat.digitChar (k % 8) ≤ '7' :=
    fun k => octal_digitChar _ (Nat.mod_lt k (by decide))
  apply IsUnit.octal
  intro d hd
  rcases List.mem_cons.mp hd with rfl | hd
  · exact hdigit (n / 64)
  rcases List.mem_cons.mp hd with rfl | hd
  · exact hdigit (n / 8)
  · obtain rfl := List.mem_singleton.mp hd
    exact hdigit n

/-- Every character is escaped into one unit. -/
theorem isUnit_escapeChar (beside : Bool) (c : Char) : IsUnit (escapeChar beside c) := by
  rcases escapeChar_cases beside c with ⟨d, byte, heq, -, -, -, hd⟩ | ⟨heq, -⟩ | ⟨heq, hb, hq, -, -, hcontrol⟩
  · rw [heq]
    exact .short hd
  · rw [heq]
    exact isUnit_octal3 c.toNat
  · rw [heq]
    exact .plain hq hb hcontrol

theorem exists_units_escapeFrom (before : Option Char) (cs : List Char) :
    ∃ units : List (List Char), escapeFrom before cs = units.flatten ∧ ∀ u ∈ units, IsUnit u := by
  induction cs generalizing before with
  | nil => exact ⟨[], rfl, by simp⟩
  | cons c cs ih =>
    obtain ⟨units, hunits, hall⟩ := ih (some c)
    refine ⟨escapeChar (before == some '?' || cs.head? == some '?') c :: units, ?_,
      List.forall_mem_cons.mpr ⟨isUnit_escapeChar _ c, hall⟩⟩
    rw [escapeFrom, hunits, List.flatten_cons]

/-- An escaped text is made of units. -/
theorem exists_units_escape (s : String) :
    ∃ units : List (List Char), (escape s).toList = units.flatten ∧ ∀ u ∈ units, IsUnit u := by
  rw [escape, String.toList_ofList]
  exact exists_units_escapeFrom none s.toList

theorem isControl_of_octal {d : Char} (h : '0' ≤ d ∧ d ≤ '7') : isControl d = false := by
  have hlow : 48 ≤ d.toNat := h.1
  have hhigh : d.toNat ≤ 55 := h.2
  simp only [isControl, Bool.or_eq_false_iff, decide_eq_false_iff_not, beq_eq_false_iff_ne]
  omega

theorem IsUnit.isControl_eq_false {u : List Char} (h : IsUnit u) {c : Char} (hc : c ∈ u) :
    isControl c = false := by
  have hbackslash : isControl '\\' = false := rfl
  cases h with
  | plain _ _ hcontrol =>
    obtain rfl := List.mem_singleton.mp hc
    exact hcontrol
  | @short d hd =>
    rcases List.mem_cons.mp hc with rfl | hc
    · exact hbackslash
    · obtain rfl := List.mem_singleton.mp hc
      simp only [List.mem_cons, List.not_mem_nil, or_false] at hd
      rcases hd with rfl | rfl | rfl | rfl | rfl | rfl <;> rfl
  | octal hdigits =>
    rcases List.mem_cons.mp hc with rfl | hc
    · exact hbackslash
    · exact isControl_of_octal (hdigits c hc)

/-- An escaped text has no control character of ASCII. -/
theorem isControl_of_mem_escape {s : String} {c : Char} (hc : c ∈ (escape s).toList) :
    isControl c = false := by
  obtain ⟨units, hunits, hall⟩ := exists_units_escape s
  rw [hunits] at hc
  obtain ⟨u, hu, hcu⟩ := List.mem_flatten.mp hc
  exact (hall u hu).isControl_eq_false hcu

/-! ## Question marks -/

theorem pair_infix_cons_iff {c : Char} {rest : List Char} :
    ['?', '?'] <:+: c :: rest ↔ (c = '?' ∧ rest.head? = some '?') ∨ ['?', '?'] <:+: rest := by
  rw [List.infix_cons_iff]
  refine or_congr_left ?_
  cases rest with
  | nil => simp
  | cons d rest => simp [List.cons_prefix_cons, eq_comm]

/-- Only a question mark at the end of an escaped character can make a pair with what comes behind. -/
theorem no_pair_escapeChar {beside : Bool} {c : Char} {rest : List Char} (hrest : ¬['?', '?'] <:+: rest)
    (hhead : c = '?' → rest.head? ≠ some '?') : ¬['?', '?'] <:+: escapeChar beside c ++ rest := by
  have hbackslash : '\\' ≠ '?' := by decide
  rcases escapeChar_cases beside c with ⟨d, byte, heq, -, -, hd, -⟩ | ⟨heq, -⟩ | ⟨heq, -⟩
  · simp only [heq, List.cons_append, List.nil_append, pair_infix_cons_iff, hbackslash, false_and, false_or]
    rintro (⟨hdq, hpair⟩ | hpair)
    · exact hhead (hd hdq) hpair
    · exact hrest hpair
  · have hdigit : ∀ k, Nat.digitChar (k % 8) ≠ '?' := by
      intro k
      exact (by decide : ∀ n, n < 8 → Nat.digitChar n ≠ '?') _ (Nat.mod_lt k (by decide))
    simpa only [heq, octal3, List.cons_append, List.nil_append, pair_infix_cons_iff, hbackslash, hdigit,
      false_and, false_or] using hrest
  · rw [heq, List.singleton_append, pair_infix_cons_iff]
    rintro (⟨hc, hpair⟩ | hpair)
    · exact hhead hc hpair
    · exact hrest hpair

/-- No two question marks stand side by side, the closing quote included. -/
theorem no_pair_escapeFrom (before : Option Char) (cs : List Char) :
    ¬['?', '?'] <:+: escapeFrom before cs ++ ['"'] := by
  induction cs generalizing before with
  | nil =>
    intro hpair
    simpa [escapeFrom] using hpair.length_le
  | cons c cs ih =>
    -- Behind a question mark no other one stands bare: that one has been escaped, too.
    have hhead := (head?_escapeFrom (some c) cs []).2
    rw [escapeFrom, List.append_assoc]
    exact no_pair_escapeChar (ih (some c)) fun hc => hhead (congrArg some hc)

theorem no_pair_in_escape (s : String) : ¬['?', '?'] <:+: (escape s).toList := by
  rw [escape, String.toList_ofList]
  intro hpair
  exact no_pair_escapeFrom none s.toList (hpair.trans (List.prefix_append _ _).isInfix)

/-! ## The literal -/

/-- The translation phases leave a literal alone. -/
theorem phases_quote (s : String) : phases (quote s).toList = (quote s).toList := by
  simp only [quote, String.toList_append, escape, String.toList_ofList]
  show phases ('"' :: (escapeFrom none s.toList ++ '"' :: [])) = _
  rw [phases_cons_of_isLoner (by decide), phases_escapeFrom]
  rfl

/-- A quoted text is one literal and nothing else. -/
theorem tokens_quote (s : String) : tokens (quote s) = [.atom (.text (escape s).toList)] := by
  have hreads := reads_quote (Or.inl rfl : Line.fresh.IsOpen) s []
  rw [List.append_nil] at hreads
  rw [tokens, hreads]
  rfl

theorem eq_of_escape_eq {s t : String} (h : escape s = escape t) : s = t := by
  have hbytes : some (Text.utf8 s) = some (Text.utf8 t) := by
    rw [← decode_escape, ← decode_escape, h]
  exact Text.utf8_inj.mp (Option.some.inj hbytes)

/-- C takes back what escaping does. Between quotes an escaped text is one literal, untouched by the replacement
of trigraphs and the joining of lines, and its escapes stand for the bytes of the text. It is made of units, so
that it has no bare quote and no stray backslash; it has no control character and no two question marks side by
side. Different texts are escaped differently. -/
theorem escape_undone (s : String) :
    (phases (quote s).toList = (quote s).toList ∧ tokens (quote s) = [.atom (.text (escape s).toList)] ∧
      decode (escape s).toList = some (Text.utf8 s)) ∧
    ((∃ units : List (List Char), (escape s).toList = units.flatten ∧ ∀ u ∈ units, IsUnit u) ∧
      (∀ c ∈ (escape s).toList, isControl c = false) ∧ ¬['?', '?'] <:+: (escape s).toList) ∧
    ∀ t, escape t = escape s → t = s :=
  ⟨⟨phases_quote s, tokens_quote s, decode_escape s⟩,
    ⟨exists_units_escape s, fun _ hc => isControl_of_mem_escape hc, no_pair_in_escape s⟩,
    fun _ h => eq_of_escape_eq h⟩

/-- A digit behind an octal escape, a question mark at either side of a pair, a quote behind a backslash. -/
example : escape "\x01\x32?? ?\\\"" = "\\0012\\?\\? ?\\\\\\\"" := by
  decide +kernel

end ProfileBindings.C.Literal
