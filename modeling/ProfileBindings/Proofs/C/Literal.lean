import ProfileBindings.C.Literal
import ProfileBindings.Proofs.C.Lexer
import ProfileBindings.Proofs.Text.Utf8

/-!
# What a string literal stands for

A literal is decoded from its spelling: a character stands for its bytes, a simple escape for one byte, and
a backslash with one to three octal digits for the byte of that number, as many digits as there are.
Hexadecimal escapes and universal character names are not covered.

Main statements:
* `decode_escape` : an escaped text stands for the bytes of the text;
* `reads_quote` : a quoted text is read as one token, spelled as it was escaped.
-/

namespace ProfileBindings.C.Literal

/-- The byte of a simple escape, by the character behind the backslash. -/
def simpleEscape? : Char → Option UInt8
  | '\\' => some 92
  | '"' => some 34
  | '\'' => some 39
  | '?' => some 63
  | 'a' => some 7
  | 'b' => some 8
  | 't' => some 9
  | 'n' => some 10
  | 'v' => some 11
  | 'f' => some 12
  | 'r' => some 13
  | _ => none

/-- The number of an octal digit. -/
def octalDigit? (c : Char) : Option Nat :=
  if '0' ≤ c && c ≤ '7' then some (c.toNat - '0'.toNat) else none

/-- How far an escape has come. -/
inductive Pending where
  | nothing
  | backslash
  /-- Octal digits with a number, and how many more may follow. -/
  | octal (number more : Nat)
deriving DecidableEq

/-- The bytes that the rest of a spelling stands for. -/
def decodeFrom : Pending → List Char → Option (List UInt8)
  | .nothing, [] => some []
  | .nothing, c :: rest =>
    if c = '\\' then decodeFrom .backslash rest
    else (decodeFrom .nothing rest).map (String.utf8EncodeChar c ++ ·)
  | .backslash, [] => none
  | .backslash, c :: rest =>
    match simpleEscape? c, octalDigit? c with
    | some byte, _ => (decodeFrom .nothing rest).map (byte :: ·)
    | none, some digit => decodeFrom (.octal digit 2) rest
    | none, none => none
  | .octal n _, [] => if n < 256 then some [UInt8.ofNat n] else none
  | .octal n more, c :: rest =>
    match more, octalDigit? c with
    | more + 1, some digit => decodeFrom (.octal (8 * n + digit) more) rest
    | _, _ =>
      if 256 ≤ n then none
      else if c = '\\' then (decodeFrom .backslash rest).map (UInt8.ofNat n :: ·)
      else (decodeFrom .nothing rest).map fun bytes =>
        UInt8.ofNat n :: (String.utf8EncodeChar c ++ bytes)

/-- The bytes that a literal with this spelling stands for. -/
def decode (spelling : List Char) : Option (List UInt8) := decodeFrom .nothing spelling

/-! ## The shapes of an escaped character -/

/-- An escaped character is a simple escape, an octal escape or the character itself. A question mark is
escaped by one, and stands alone only where no other one is beside it. -/
theorem escapeChar_cases (beside : Bool) (c : Char) :
    (∃ d byte, escapeChar beside c = ['\\', d] ∧ simpleEscape? d = some byte ∧
      String.utf8EncodeChar c = [byte] ∧ (d = '?' → c = '?') ∧ d ∈ ['\\', '"', 'n', 'r', 't', '?']) ∨
    (escapeChar beside c = '\\' :: octal3 c.toNat ∧ c.toNat < 128) ∨
    (escapeChar beside c = [c] ∧ c ≠ '\\' ∧ c ≠ '"' ∧ c ≠ '\n' ∧ (c = '?' → beside = false) ∧
      isControl c = false) := by
  unfold escapeChar
  split
  · next h =>
    obtain ⟨rfl, -⟩ : c = '?' ∧ beside = true := by simpa using h
    exact Or.inl ⟨_, _, rfl, rfl, rfl, fun _ => rfl, by decide⟩
  next hq =>
  -- The five characters that have a simple escape of their own.
  iterate 5
    split
    · next h =>
      rw [eq_of_beq h]
      exact Or.inl ⟨_, _, rfl, rfl, rfl, by decide, by decide⟩
  split
  · next h =>
    have hc : c.toNat < 32 ∨ c.toNat = 127 := by simpa [isControl] using h
    exact Or.inr (Or.inl ⟨rfl, by omega⟩)
  · next hb hquote hn _ _ hcontrol =>
    refine Or.inr (Or.inr ⟨rfl, by simpa using hb, by simpa using hquote, by simpa using hn, ?_,
      by simpa using hcontrol⟩)
    rintro rfl
    simpa using hq

/-! ## Texts that need no escape -/

/-- The character stands for itself in a literal, whatever stands beside it. -/
def isPlain (c : Char) : Bool := c != '?' && c != '\\' && c != '"' && !isControl c

theorem escapeChar_of_isPlain {c : Char} (h : isPlain c = true) (beside : Bool) :
    escapeChar beside c = [c] := by
  have h' : ((c ≠ '?' ∧ c ≠ '\\') ∧ c ≠ '"') ∧ isControl c = false := by simpa [isPlain] using h
  -- The control characters with an escape of their own are control characters all the same.
  have hne : ∀ d, isControl d = true → c ≠ d := by
    rintro d hd rfl
    simp [h'.2] at hd
  simp [escapeChar, h'.1.1.1, h'.1.1.2, h'.1.2, h'.2, hne '\n' (by decide), hne '\r' (by decide),
    hne '\t' (by decide)]

theorem escapeFrom_of_isPlain {cs : List Char} (h : ∀ c ∈ cs, isPlain c = true)
    (before : Option Char) : escapeFrom before cs = cs := by
  induction cs generalizing before with
  | nil => rfl
  | cons c cs ih =>
    rw [escapeFrom, escapeChar_of_isPlain (h c List.mem_cons_self),
      ih fun d hd => h d (List.mem_cons_of_mem c hd)]
    rfl

theorem escape_of_isPlain {s : String} (h : ∀ c ∈ s.toList, isPlain c = true) : escape s = s := by
  rw [escape, escapeFrom_of_isPlain h, String.ofList_toList]

theorem isWordChar_of_isControl :
    ∀ n, n < 128 → isControl (Char.ofNat n) = true → Text.isWordChar (Char.ofNat n) = false := by
  decide

theorem isPlain_of_isWordChar {c : Char} (h : Text.isWordChar c = true) : isPlain c = true := by
  have hne : ∀ d, Text.isWordChar d = false → c ≠ d := by
    rintro d hd rfl
    simp [hd] at h
  have hcontrol : isControl c = false := by
    by_contra hc
    have hc' : isControl c = true := by simpa using hc
    have hascii : c.toNat < 32 ∨ c.toNat = 127 := by simpa [isControl] using hc'
    have hword := isWordChar_of_isControl c.toNat (by omega)
    rw [Char.ofNat_toNat] at hword
    simp [hword hc'] at h
  simp [isPlain, hne '?' (by decide), hne '\\' (by decide), hne '"' (by decide), hcontrol]

/-- A fixed text, spelled out, that needs no escape. -/
theorem isPlain_of_mem_literal {s : String} {cs : List Char} (hs : s = String.ofList cs)
    (h : cs.all isPlain = true) {c : Char} (hc : c ∈ s.toList) : isPlain c = true := by
  rw [hs, String.toList_ofList] at hc
  exact List.all_eq_true.mp h c hc

theorem escape_of_isIdentifier {s : String} (h : Text.isIdentifier s = true) : escape s = s :=
  escape_of_isPlain fun _ hc => isPlain_of_isWordChar (isWordChar_of_mem_identifier h hc)

/-! ## Decoding what was escaped -/

/-- Three digits are the most that an octal escape takes. -/
theorem decodeFrom_octal_full {n : Nat} (h : n < 256) (rest : List Char) :
    decodeFrom (.octal n 0) rest = (decodeFrom .nothing rest).map (UInt8.ofNat n :: ·) := by
  have h' : ¬256 ≤ n := by omega
  cases rest with
  | nil => simp [decodeFrom, h]
  | cons c rest =>
    by_cases hc : c = '\\'
    · simp only [decodeFrom, hc, h', if_true, if_false]
    · simp only [decodeFrom, hc, h', if_false, Option.map_map, Function.comp_def]

theorem octalDigit?_digitChar : ∀ n, n < 8 → octalDigit? (Nat.digitChar n) = some n := by
  decide

theorem simpleEscape?_digitChar : ∀ n, n < 8 → simpleEscape? (Nat.digitChar n) = none := by
  decide

theorem decodeFrom_octal3 {n : Nat} (h : n < 256) (rest : List Char) :
    decodeFrom .backslash (octal3 n ++ rest)
      = (decodeFrom .nothing rest).map (UInt8.ofNat n :: ·) := by
  have hdigit : ∀ k, octalDigit? (Nat.digitChar (k % 8)) = some (k % 8) :=
    fun k => octalDigit?_digitChar _ (Nat.mod_lt k (by decide))
  have hsimple : simpleEscape? (Nat.digitChar (n / 64 % 8)) = none :=
    simpleEscape?_digitChar _ (Nat.mod_lt _ (by decide))
  -- The three digits make up the number, since it is below 256.
  have hn : 8 * (8 * (n / 64 % 8) + n / 8 % 8) + n % 8 = n := by omega
  simp only [octal3, List.cons_append, List.nil_append, decodeFrom, hsimple, hdigit, hn]
  exact decodeFrom_octal_full h rest

theorem decodeFrom_escapeChar (beside : Bool) (c : Char) (rest : List Char) :
    decodeFrom .nothing (escapeChar beside c ++ rest)
      = (decodeFrom .nothing rest).map (String.utf8EncodeChar c ++ ·) := by
  rcases escapeChar_cases beside c with ⟨d, byte, heq, hd, hc, -⟩ | ⟨heq, hc⟩ | ⟨heq, hb, -⟩
  · simp only [heq, hc, List.cons_append, List.nil_append, decodeFrom, hd, if_true]
  · rw [heq, Text.utf8EncodeChar_of_ascii hc]
    exact decodeFrom_octal3 (by omega) rest
  · simp only [heq, List.cons_append, List.nil_append, decodeFrom, if_neg hb]

theorem decodeFrom_escapeFrom (before : Option Char) (cs : List Char) :
    decodeFrom .nothing (escapeFrom before cs) = some (cs.flatMap String.utf8EncodeChar) := by
  induction cs generalizing before with
  | nil => rfl
  | cons c cs ih =>
    simp only [escapeFrom, decodeFrom_escapeChar, ih, Option.map_some, List.flatMap_cons]

/-- An escaped text stands for the bytes of the text. -/
theorem decode_escape (s : String) : decode (escape s).toList = some (Text.utf8 s) := by
  rw [escape, String.toList_ofList]
  exact decodeFrom_escapeFrom none s.toList

/-! ## Reading what was escaped -/

theorem isLoner_digitChar : ∀ n, n < 8 → isLoner (Nat.digitChar n) = true := by
  decide

theorem all_isLoner_octal3 (n : Nat) : (octal3 n).all isLoner = true := by
  have hdigit : ∀ k, isLoner (Nat.digitChar (k % 8)) = true :=
    fun k => isLoner_digitChar _ (Nat.mod_lt k (by decide))
  simp only [octal3, List.all_cons, List.all_nil, hdigit, Bool.and_self]

theorem simpleEscape?_newline : simpleEscape? '\n' = none := rfl

theorem digitChar_ne_newline : ∀ n, n < 8 → Nat.digitChar n ≠ '\n' := by
  decide

/-- What stands behind a character of an escaped text, the closing quote included, is no newline. Behind a
question mark it is no question mark either. -/
theorem head?_escapeFrom (before : Option Char) (cs rest : List Char) :
    (escapeFrom before cs ++ '"' :: rest).head? ≠ some '\n' ∧
      (before = some '?' → (escapeFrom before cs ++ '"' :: rest).head? ≠ some '?') := by
  cases cs with
  | nil => simp [escapeFrom]
  | cons c cs =>
    simp only [escapeFrom]
    rcases escapeChar_cases (before == some '?' || cs.head? == some '?') c with
      ⟨d, byte, heq, -⟩ | ⟨heq, -⟩ | ⟨heq, -, -, hn, hq, -⟩
    · simp [heq]
    · simp [heq]
    · simp only [heq, List.cons_append, List.head?_cons, ne_eq, Option.some.injEq]
      refine ⟨hn, fun hbefore hc => ?_⟩
      simp [hbefore] at hq
      exact hq hc

theorem phases_escapeChar {beside : Bool} {c : Char} {rest : List Char}
    (hn : rest.head? ≠ some '\n') (hq : c = '?' → rest.head? ≠ some '?') :
    phases (escapeChar beside c ++ rest) = escapeChar beside c ++ phases rest := by
  rcases escapeChar_cases beside c with ⟨d, byte, heq, hd, -, hdq, -⟩ | ⟨heq, -⟩ | ⟨heq, hb, -⟩
  -- The backslash of an escape has no newline behind it; only the end of the escape looks at `rest`.
  · have hdn : d ≠ '\n' := by
      rintro rfl
      simp [simpleEscape?_newline] at hd
    simp only [heq, List.cons_append, List.nil_append]
    rw [phases_cons (by simp) (by simpa using hdn), phases_cons (fun h => hq (hdq h)) (fun _ => hn)]
  · have hdn : Nat.digitChar (c.toNat / 64 % 8) ≠ '\n' :=
      digitChar_ne_newline _ (Nat.mod_lt _ (by decide))
    rw [heq, List.cons_append, List.cons_append,
      phases_cons (by simp) (by simp [octal3, hdn]),
      calm_of_loners (all_isLoner_octal3 c.toNat) rest]
  · rw [heq]
    exact phases_cons hq (fun h => absurd h hb)

theorem phases_escapeFrom (before : Option Char) (cs rest : List Char) :
    phases (escapeFrom before cs ++ '"' :: rest) = escapeFrom before cs ++ '"' :: phases rest := by
  induction cs generalizing before with
  | nil => exact phases_cons_of_isLoner (by decide) rest
  | cons c cs ih =>
    -- The invariant: what comes behind `c` makes no pair with it.
    have hhead := head?_escapeFrom (some c) cs rest
    simp only [escapeFrom, List.append_assoc]
    rw [phases_escapeChar hhead.1 (fun hc => hhead.2 (by rw [hc])), ih]

theorem run_escapeChar (l : Line) (w : List Char) (beside : Bool) (c : Char) :
    run ⟨l, .literal '"' w⟩ (escapeChar beside c)
      = ([], ⟨l, .literal '"' (w ++ escapeChar beside c)⟩) := by
  have hstep : ∀ {w : List Char} {d : Char}, d ≠ '"' → d ≠ '\\' → d ≠ '\n' →
      step ⟨l, .literal '"' w⟩ d = ([], ⟨l, .literal '"' (w ++ [d])⟩) := by
    intro w d h1 h2 h3
    simp [step, h1, h2, h3]
  have hescape : ∀ {w : List Char} {d : Char}, d ≠ '\n' →
      step ⟨l, .escape '"' w⟩ d = ([], ⟨l, .literal '"' (w ++ [d])⟩) := by
    intro w d h
    simp [step, h]
  have hbackslash : ∀ {w : List Char},
      step ⟨l, .literal '"' w⟩ '\\' = ([], ⟨l, .escape '"' (w ++ ['\\'])⟩) := by
    intro w
    simp [step]
  rcases escapeChar_cases beside c with ⟨d, byte, heq, hd, -⟩ | ⟨heq, -⟩ | ⟨heq, hb, hq, hn, -⟩
  · have hdn : d ≠ '\n' := by
      rintro rfl
      simp [simpleEscape?_newline] at hd
    simp only [heq, run, hbackslash, hescape hdn, List.append_assoc, List.nil_append,
      List.cons_append]
  · have hdigit : ∀ k, Nat.digitChar (k % 8) ≠ '"' ∧ Nat.digitChar (k % 8) ≠ '\\' ∧
        Nat.digitChar (k % 8) ≠ '\n' := by
      intro k
      exact (by decide : ∀ n, n < 8 → Nat.digitChar n ≠ '"' ∧ Nat.digitChar n ≠ '\\' ∧
        Nat.digitChar n ≠ '\n') _ (Nat.mod_lt k (by decide))
    simp only [heq, octal3, run, hbackslash, hescape (hdigit _).2.2,
      hstep (hdigit _).1 (hdigit _).2.1 (hdigit _).2.2, List.append_assoc, List.nil_append,
      List.cons_append]
  · simp only [heq, run, hstep hq hb hn, List.append_nil]

theorem run_escapeFrom (l : Line) (w : List Char) (before : Option Char) (cs : List Char) :
    run ⟨l, .literal '"' w⟩ (escapeFrom before cs)
      = ([], ⟨l, .literal '"' (w ++ escapeFrom before cs)⟩) := by
  induction cs generalizing w before with
  | nil => simp [escapeFrom, run]
  | cons c cs ih =>
    simp only [escapeFrom, run_append, run_escapeChar, ih, List.append_assoc, List.nil_append]

/-- A quoted text is one token, where a literal can stand. -/
theorem reads_quote {l : Line} (hl : l.IsOpen) (s : String) :
    Reads (.between l) (quote s).toList [.atom (.text (escape s).toList)] (.between .plain) := by
  apply Reads.of_calm
  · intro rest
    simp only [quote, String.toList_append, escape, String.toList_ofList, List.append_assoc]
    show phases ('"' :: (escapeFrom none s.toList ++ '"' :: rest)) = _
    rw [phases_cons_of_isLoner (by decide), phases_escapeFrom]
    rfl
  · have hopen : step (.between l) '"' = ([], ⟨l, .literal '"' []⟩) := by
      rcases hl with rfl | rfl <;> rfl
    have hclose : ∀ w, step ⟨l, .literal '"' w⟩ '"' = ([.atom (.text w)], .between .plain) := by
      intro w
      rcases hl with rfl | rfl <;> rfl
    simp only [quote, String.toList_append, escape, String.toList_ofList]
    show run (.between l) ('"' :: (escapeFrom none s.toList ++ ['"'])) = _
    simp only [run, hopen, run_append, run_escapeFrom, hclose, List.nil_append, List.append_nil]

end ProfileBindings.C.Literal
