import Mathlib.Data.List.Basic
import ProfileBindings.Pattern.Reader

/-!
# What plain patterns are read as

A pattern that is made of characters, sets, repetitions and groups is read piece by piece. What a piece is read
as does not depend on what follows, as long as this does not repeat the piece.

* `Reader.Reads` : what a reader gives, and what is known then;
* `upcoming` : what is known in front of a text, if nothing out of the ordinary has been met;
* `ReadsBranch` : what the pieces of a text are read as.

Main statements:
* `ReadsBranch.cons`, `readsBranch_end`, `ReadsBranch.literal` : branches, one piece after the other;
* `reads_group` : a group is read as its branch;
* `read?_of_readsBranch` : a whole text.
-/

namespace ProfileBindings.Pattern

/-! ## Readers -/

/-- What a reader gives, and what is known then. -/
def Reader.Reads {α : Type} (read : Reader α) (r : Reading) (a : α) (r' : Reading) : Prop := read r = some (a, r')

theorem Reader.Reads.bind {α β : Type} {read : Reader α} {next : α → Reader β} {r r' r'' : Reading} {a : α} {b : β}
    (h : read.Reads r a r') (hnext : (next a).Reads r' b r'') : (read >>= next).Reads r b r'' := by
  have hbind : (read >>= next) r = (read r).bind fun found => next found.1 found.2 := rfl
  rw [Reader.Reads, hbind, h]
  exact hnext

/-- What is known in front of a text in which nothing out of the ordinary has been met. -/
def upcoming (bound opened : Nat) (cs : List Char) : Reading := ⟨cs, .initial, false, opened, [], false, [], bound⟩

/-- A text that neither repeats what is in front of it nor starts with a comment or a group with a mark. -/
def isApart : List Char → Bool
  | '(' :: '?' :: _ => false
  | [] => true
  | c :: _ => ['?', '*', '+', '\x7b'].all (c != ·)

/-- The character stands for itself. -/
def isOrdinary (c : Char) : Bool :=
  ['.', '^', '$', '(', ')', '[', '\\', '+', '*', '?', '|', '\x7b'].all (c != ·)

variable {bound n n' n'' : Nat} {text mid rest : List Char} {c : Char} {p q : Pattern}
variable {atom inside : Reader Pattern}

/-! ## Pieces -/

theorem reads_rest : Reader.rest.Reads (upcoming bound n text) text (upcoming bound n text) := rfl

theorem reads_skip (h : isApart text = true) : skip.Reads (upcoming bound n text) () (upcoming bound n text) := by
  have hskip : skipMeaningless? false (text.length + 1) text = some text := by
    unfold skipMeaningless?
    split
    · contradiction
    · rfl
    · rfl
  unfold skip
  refine .bind rfl ?_
  simp only [upcoming, Flags.initial, hskip]
  rfl

theorem reads_no_repeats (h : isApart text = true) :
    readRepeats?.Reads (upcoming bound n text) none (upcoming bound n text) := by
  unfold readRepeats?
  refine .bind reads_rest ?_
  split
  · contradiction
  · contradiction
  · contradiction
  · contradiction
  · rfl

theorem reads_takes_false (h : isApart text = true) (hc : c = '?' ∨ c = '+') :
    (Reader.takes c).Reads (upcoming bound n text) false (upcoming bound n text) := by
  refine .bind rfl ?_
  cases text with
  | nil => rfl
  | cons d cs =>
    have hne : (c == d) = false := by
      rw [beq_eq_false_iff_ne]
      rintro rfl
      rcases hc with rfl | rfl <;> contradiction
    show (if (c == d) = true then _ else _ : Reader Bool).Reads _ _ _
    rw [hne]
    rfl

/-- A piece is read as its atom if nothing repeats it. -/
theorem reads_piece (htext : isApart text = true)
    (hatom : atom.Reads (upcoming bound n text) p (upcoming bound n' rest)) (hrest : isApart rest = true) :
    (readPiece atom).Reads (upcoming bound n text) p (upcoming bound n' rest) :=
  (reads_skip htext).bind (hatom.bind ((reads_skip hrest).bind ((reads_no_repeats hrest).bind rfl)))

/-- A piece with a sign of repetition behind it. -/
theorem reads_repeated {sign : Char} {least : Nat} (hsign : sign = '*' ∧ least = 0 ∨ sign = '+' ∧ least = 1)
    (htext : isApart text = true)
    (hatom : atom.Reads (upcoming bound n text) p (upcoming bound n' (sign :: rest)))
    (hp : p.isRepeatable = true) (hrest : isApart rest = true) :
    (readPiece atom).Reads (upcoming bound n text) (repeated least none true p) (upcoming bound n' rest) := by
  have hskip : skip.Reads (upcoming bound n' (sign :: rest)) () (upcoming bound n' (sign :: rest)) := by
    rcases hsign with ⟨rfl, rfl⟩ | ⟨rfl, rfl⟩ <;> rfl
  have hrepeats : readRepeats?.Reads (upcoming bound n' (sign :: rest)) (some (least, none))
      (upcoming bound n' rest) := by
    rcases hsign with ⟨rfl, rfl⟩ | ⟨rfl, rfl⟩ <;> rfl
  refine (reads_skip htext).bind (hatom.bind (hskip.bind (hrepeats.bind ?_)))
  simp only [hp, Option.any_none, Bool.not_true, Bool.or_false, Bool.false_eq_true, if_false]
  refine (reads_skip hrest).bind ((reads_takes_false hrest (.inl rfl)).bind ?_)
  refine .bind rfl ((reads_takes_false hrest (.inr rfl)).bind rfl)

/-! ## Atoms -/

theorem ne_of_isOrdinary {d : Char} (hc : isOrdinary c = true) (hd : isOrdinary d = false) : c ≠ d := by
  rintro rfl
  exact Bool.false_ne_true (hd.symm.trans hc)

theorem reads_ordinary (hc : isOrdinary c = true) :
    (readAtomWith inside).Reads (upcoming bound n (c :: rest)) (char (.single c)) (upcoming bound n rest) := by
  unfold readAtomWith
  refine .bind rfl (.bind reads_rest ?_)
  split
  · contradiction
  · next heq => cases heq; contradiction
  · next heq => cases heq; contradiction
  · next heq => cases heq; contradiction
  · next heq => cases heq; contradiction
  · next heq => cases heq; contradiction
  · next heq => cases heq; contradiction
  · next d cs _ _ _ _ _ _ heq =>
    obtain ⟨rfl, rfl⟩ := List.cons.inj heq
    have hsigns : ∀ d ∈ ['+', '*', '?', '|', ')'], isOrdinary d = false := by simp [isOrdinary]
    have hnone : c ∉ ['+', '*', '?', '|', ')'] := fun hmem => ne_of_isOrdinary hc (hsigns c hmem) rfl
    rw [if_neg hnone]
    rfl

/-- A set in brackets. -/
theorem reads_set {set : Pattern} (h : readSet.Reads (upcoming bound n text) set (upcoming bound n rest)) :
    (readAtomWith inside).Reads (upcoming bound n ('[' :: text)) set (upcoming bound n rest) :=
  .bind rfl (.bind rfl (.bind rfl h))

/-! ## Branches -/

/-- What the pieces of a text are read as, up to its end or to the parenthesis behind it. -/
def ReadsBranch (bound : Nat) (atom : Reader Pattern) (n : Nat) (text : List Char) (p : Pattern) (n' : Nat)
    (rest : List Char) : Prop :=
  ∀ fuel, text.length < fuel → (readBranch atom fuel).Reads (upcoming bound n text) p (upcoming bound n' rest)

theorem ReadsBranch.cons
    (hpiece : (readPiece atom).Reads (upcoming bound n text) p (upcoming bound n' mid))
    (hshort : mid.length < text.length) (h : ReadsBranch bound atom n' mid q n'' rest) :
    ReadsBranch bound atom n text (p.andThen q) n'' rest := by
  intro fuel hfuel
  cases fuel with
  | zero => contradiction
  | succ fuel =>
    rw [readBranch]
    refine .bind rfl (hpiece.bind (.bind rfl ?_))
    have hlength : mid.length ≠ text.length := Nat.ne_of_lt hshort
    show (if mid.length = text.length then _ else _ : Reader Pattern).Reads _ _ _
    rw [if_neg hlength]
    exact (h fuel (by omega)).bind rfl

theorem readsBranch_end (h : rest = [] ∨ ∃ cs, rest = ')' :: cs) :
    ReadsBranch bound (readAtomWith inside) n rest .nothing n rest := by
  intro fuel hfuel
  cases fuel with
  | zero => contradiction
  | succ fuel =>
    rcases h with rfl | ⟨cs, rfl⟩
    · rfl
    · have hpiece : (readPiece (readAtomWith inside)).Reads (upcoming bound n (')' :: cs)) .nothing
          (upcoming bound n (')' :: cs)) := reads_piece rfl rfl rfl
      rw [readBranch]
      refine .bind rfl (hpiece.bind (.bind rfl ?_))
      show (if cs.length + 1 = cs.length + 1 then _ else _ : Reader Pattern).Reads _ _ _
      rw [if_pos rfl]
      rfl

theorem isApart_of_isOrdinary (hc : isOrdinary c = true) : isApart (c :: rest) = true := by
  have hsigns : ∀ d ∈ ['(', '?', '*', '+', '\x7b'], isOrdinary d = false := by simp [isOrdinary]
  unfold isApart
  split
  · next heq => exact absurd (List.cons.inj heq).1 (ne_of_isOrdinary hc (hsigns '(' (by simp)))
  · next heq => exact absurd heq (List.cons_ne_nil _ _)
  · next heq =>
    obtain ⟨rfl, rfl⟩ := List.cons.inj heq
    have hne : ∀ d ∈ ['?', '*', '+', '\x7b'], c ≠ d := fun d hd =>
      ne_of_isOrdinary hc (hsigns d (List.mem_cons_of_mem _ hd))
    simpa using hne

theorem isApart_append {front : List Char} (hfront : front.all isOrdinary = true) (htext : isApart text = true) :
    isApart (front ++ text) = true := by
  cases front with
  | nil => exact htext
  | cons c front =>
    rw [List.all_cons, Bool.and_eq_true] at hfront
    exact isApart_of_isOrdinary hfront.1

/-- Characters that stand for themselves. -/
theorem ReadsBranch.literal {front : List Char} (h : ReadsBranch bound (readAtomWith inside) n text q n' rest)
    (hfront : front.all isOrdinary = true) (htext : isApart text = true) :
    ReadsBranch bound (readAtomWith inside) n (front ++ text)
      (front.foldr (fun c p => (char (.single c)).andThen p) q) n' rest := by
  induction front with
  | nil => exact h
  | cons c front ih =>
    rw [List.all_cons, Bool.and_eq_true] at hfront
    have hpiece : (readPiece (readAtomWith inside)).Reads (upcoming bound n (c :: (front ++ text)))
        (char (.single c)) (upcoming bound n (front ++ text)) :=
      reads_piece (isApart_of_isOrdinary hfront.1) (reads_ordinary hfront.1) (isApart_append hfront.2 htext)
    exact .cons hpiece (Nat.lt_succ_self _) (ih hfront.2)

/-! ## Groups and whole texts -/

theorem ReadsBranch.alternatives (h : ReadsBranch bound atom n text p n' rest)
    (hrest : rest = [] ∨ ∃ cs, rest = ')' :: cs) :
    (readAlternatives atom).Reads (upcoming bound n text) p (upcoming bound n' rest) := by
  have hothers : (readOthers atom (rest.length + 1)).Reads (upcoming bound n' rest) []
      (upcoming bound n' rest) := by
    rcases hrest with rfl | ⟨cs, rfl⟩ <;> rfl
  exact .bind rfl ((h _ (Nat.lt_succ_self _)).bind (.bind rfl (hothers.bind rfl)))

/-- A group is read as what is in it, and gets the next number. -/
theorem reads_group (htext : isApart text = true)
    (h : ReadsBranch bound atom (n + 1) text p n' (')' :: rest)) :
    (readAtomWith (readGroup (readAlternatives atom))).Reads (upcoming bound n ('(' :: text))
      (group (n + 1) p) (upcoming bound n' rest) := by
  have halternatives : (readAlternatives atom).Reads (upcoming bound (n + 1) text) p
      (upcoming bound n' (')' :: rest)) := h.alternatives (.inr ⟨rest, rfl⟩)
  have hcapture : ∀ inside : Reader Pattern,
      inside.Reads (upcoming bound (n + 1) text) p (upcoming bound n' rest) →
        (capture inside).Reads (upcoming bound n text) (group (n + 1) p) (upcoming bound n' rest) :=
    fun inside hinside => .bind rfl (hinside.bind rfl)
  refine .bind rfl (.bind rfl (.bind rfl ?_))
  unfold readGroup
  refine (reads_skip htext).bind (.bind reads_rest ?_)
  -- Nine of the ten cases are groups with a mark.
  split <;> try contradiction
  exact hcapture _ (halternatives.bind ((reads_skip rfl).bind (.bind rfl rfl)))

/-- Atoms, groups among them in which there may be groups again. -/
def atomsAbove (inside : Reader Pattern) : Reader Pattern :=
  readAtomWith (readGroup (readAlternatives (readAtomWith inside)))

/-- A whole text. Groups that nothing refers to disappear. -/
theorem read?_of_readsBranch {written : String}
    (h : ∀ bound inside, ReadsBranch bound (atomsAbove inside) 0 text p n []) (htext : written.toList = text)
    (hdraft : draft? (text.length + 1) text = some ⟨text, false⟩)
    (hweight : (p.keeping []).weight ≤ greatestWeight) : read? written = some (p.keeping []) := by
  obtain ⟨inside, hatom⟩ : ∃ inside, readAtom groupDepth = atomsAbove inside := ⟨_, rfl⟩
  have hread : readAlternatives (readAtom groupDepth) ⟨text, .initial, false, 0, [], false, [],
      (String.ofList text).utf8ByteSize / 2⟩ =
        some (p, upcoming ((String.ofList text).utf8ByteSize / 2) n []) :=
    hatom ▸ (h _ inside).alternatives (.inl rfl)
  have hlight : ¬greatestWeight < (p.keeping []).weight := Nat.not_lt.mpr hweight
  simp only [read?, ← String.length_toList, htext, hdraft, Option.bind_eq_bind, Option.bind_some, Draft.read?,
    hread, upcoming, List.isEmpty_nil, Bool.not_true, Bool.false_or, hlight, decide_false, Bool.and_false,
    Bool.false_eq_true, if_false]

end ProfileBindings.Pattern
