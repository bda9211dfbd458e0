import Mathlib.Data.List.Infix
import ProfileBindings.Enumerator.Header
import ProfileBindings.Proofs.Text.Segments

/-!
# What a header says outside its comments

A header is read from left to right as a row of pieces, each of which is a character of code or a comment as a
whole. The grammar of comments is given by the rules of `Scans`, without the automaton that blanks comments out.
A word is a longest run of word characters in this row, so that a comment keeps the words on its two sides apart.

* `Piece`, `Scans` : the row of pieces that a text is read as;
* `IsWord` : a word of a row of pieces.

Main statements:
* `existsUnique_scans` : every text is read in exactly one way;
* `mem_words_code_iff` : the words of a text without its comments are the words of its pieces.
-/

namespace ProfileBindings.Header

/-- A part of a text: one character of code, or a comment with what stands in it. -/
inductive Piece where
  | code (c : Char)
  | lineComment (body : List Char)
  | blockComment (body : List Char)
deriving DecidableEq, Repr

/-- A comment begins here. -/
def Opens (cs : List Char) : Prop := ['/', '/'] <+: cs ∨ ['/', '*'] <+: cs

/-- A text is read from left to right as a row of pieces. Two slashes begin a comment that the next newline
ends, and that newline is code again. A slash and a star begin a comment that the first star with a slash
behind it ends, where the star that has begun the comment does not count. Either comment may run to the end of
the text. What does not begin a comment is code. -/
inductive Scans : List Char → List Piece → Prop where
  | nil : Scans [] []
  | code {c : Char} {rest : List Char} {pieces : List Piece} (hcode : ¬Opens (c :: rest))
      (hrest : Scans rest pieces) : Scans (c :: rest) (.code c :: pieces)
  | lineComment {body rest : List Char} {pieces : List Piece} (hbody : '\n' ∉ body)
      (hend : ∀ c ∈ rest.head?, c = '\n') (hrest : Scans rest pieces) :
      Scans ('/' :: '/' :: (body ++ rest)) (.lineComment body :: pieces)
  | blockComment {body rest : List Char} {pieces : List Piece} (hbody : ¬['*', '/'] <:+: body ++ ['*'])
      (hrest : Scans rest pieces) :
      Scans ('/' :: '*' :: (body ++ '*' :: '/' :: rest)) (.blockComment body :: pieces)
  | unclosedComment {body : List Char} (hbody : ¬['*', '/'] <:+: body) :
      Scans ('/' :: '*' :: body) [.blockComment body]

/-- A word character outside comments. -/
def Piece.IsWordChar : Piece → Prop
  | .code c => Text.isWordChar c = true
  | .lineComment _ | .blockComment _ => False

/-- A word of a row of pieces: a longest run of word characters outside comments. -/
def IsWord (pieces : List Piece) (word : String) : Prop :=
  word ≠ "" ∧ (∀ c ∈ word.toList, Text.isWordChar c = true) ∧
    ∃ front back, pieces = front ++ word.toList.map .code ++ back ∧
      (∀ p ∈ front.getLast?, ¬p.IsWordChar) ∧ ∀ p ∈ back.head?, ¬p.IsWordChar

/-! ## One way to read a text -/

theorem opens_cons_iff {c d : Char} {rest : List Char} :
    Opens (c :: d :: rest) ↔ c = '/' ∧ (d = '/' ∨ d = '*') := by
  simp only [Opens, List.cons_prefix_cons, List.nil_prefix, and_true]
  constructor
  · rintro (⟨rfl, rfl⟩ | ⟨rfl, rfl⟩)
    · exact ⟨rfl, Or.inl rfl⟩
    · exact ⟨rfl, Or.inr rfl⟩
  · rintro ⟨rfl, rfl | rfl⟩
    · exact Or.inl ⟨rfl, rfl⟩
    · exact Or.inr ⟨rfl, rfl⟩

/-- What begins a comment and is long enough to do so. -/
theorem Opens.exists_cons {cs : List Char} (h : Opens cs) :
    (∃ rest, cs = '/' :: '/' :: rest) ∨ ∃ rest, cs = '/' :: '*' :: rest := by
  rcases h with ⟨rest, rfl⟩ | ⟨rest, rfl⟩
  · exact Or.inl ⟨rest, rfl⟩
  · exact Or.inr ⟨rest, rfl⟩

/-- A text has a first newline, or none. -/
theorem exists_line (cs : List Char) :
    ∃ body rest, cs = body ++ rest ∧ '\n' ∉ body ∧ ∀ c ∈ rest.head?, c = '\n' := by
  induction cs with
  | nil => exact ⟨[], [], rfl, by simp, by simp⟩
  | cons c cs ih =>
    by_cases hc : c = '\n'
    · exact ⟨[], c :: cs, rfl, by simp, by simpa using hc⟩
    · obtain ⟨body, rest, rfl, hbody, hend⟩ := ih
      exact ⟨c :: body, rest, rfl, List.not_mem_cons_of_ne_of_not_mem (Ne.symm hc) hbody, hend⟩

theorem line_unique {body rest body' rest' : List Char} (hbody : '\n' ∉ body)
    (hend : ∀ c ∈ rest.head?, c = '\n') (hbody' : '\n' ∉ body') (hend' : ∀ c ∈ rest'.head?, c = '\n')
    (h : body ++ rest = body' ++ rest') : body = body' ∧ rest = rest' := by
  have hline : ∀ {body rest : List Char}, '\n' ∉ body → (∀ c ∈ rest.head?, c = '\n') →
      (body ++ rest).takeWhile (· ≠ '\n') = body := by
    intro body rest hbody hend
    have hall : ∀ c ∈ body, decide (c ≠ '\n') = true := by
      intro c hc
      have hne : c ≠ '\n' := fun heq => hbody (heq ▸ hc)
      simpa using hne
    rw [List.takeWhile_append_of_pos hall]
    cases rest with
    | nil => simp
    | cons c rest => simp [hend c rfl]
  have heq : body = body' := by
    rw [← hline hbody hend, h, hline hbody' hend']
  subst heq
  exact ⟨rfl, List.append_cancel_left h⟩

/-- A text has a first star with a slash behind it, or none. -/
theorem exists_block (cs : List Char) :
    (∃ body rest, cs = body ++ '*' :: '/' :: rest ∧ ¬['*', '/'] <:+: body ++ ['*']) ∨
      ¬['*', '/'] <:+: cs := by
  induction cs with
  | nil => exact Or.inr (by simp)
  | cons c cs ih =>
    by_cases hhere : ['*', '/'] <+: c :: cs
    · obtain ⟨rest, hrest⟩ := hhere
      refine Or.inl ⟨[], rest, hrest.symm, fun hblock => ?_⟩
      simpa using hblock.length_le
    · rcases ih with ⟨body, rest, rfl, hbody⟩ | hnone
      · refine Or.inl ⟨c :: body, rest, rfl, fun hblock => ?_⟩
        rw [List.cons_append] at hblock
        rcases List.infix_cons_iff.mp hblock with hprefix | hblock
        · -- What begins with the two characters is not changed by what comes behind.
          apply hhere
          have hlong : c :: (body ++ ['*']) <+: c :: (body ++ '*' :: '/' :: rest) :=
            ⟨'/' :: rest, by simp⟩
          exact hprefix.trans hlong
        · exact hbody hblock
      · refine Or.inr fun hblock => ?_
        rcases List.infix_cons_iff.mp hblock with hprefix | hblock
        · exact hhere hprefix
        · exact hnone hblock

theorem block_unique {body rest body' rest' : List Char} (hbody : ¬['*', '/'] <:+: body ++ ['*'])
    (hbody' : ¬['*', '/'] <:+: body' ++ ['*'])
    (h : body ++ '*' :: '/' :: rest = body' ++ '*' :: '/' :: rest') : body = body' ∧ rest = rest' := by
  -- The shorter of two different bodies would be closed within the longer one.
  have hshorter : ∀ {body rest body' rest' : List Char} (more : List Char),
      ¬['*', '/'] <:+: body' ++ ['*'] → body' = body ++ more →
      '*' :: '/' :: rest = more ++ '*' :: '/' :: rest' → more = [] := by
    intro body rest body' rest' more hbody' heq hmore
    rcases more with _ | ⟨a, _ | ⟨b, more⟩⟩
    · rfl
    · simp at hmore
    · exfalso
      obtain ⟨rfl, rfl, -⟩ : '*' = a ∧ '/' = b ∧ rest = more ++ '*' :: '/' :: rest' := by simpa using hmore
      exact hbody' ⟨body, more ++ ['*'], by simp [heq]⟩
  rcases List.append_eq_append_iff.mp h with ⟨more, heq, hmore⟩ | ⟨more, heq, hmore⟩
  · obtain rfl := hshorter more hbody' heq hmore
    simp_all
  · obtain rfl := hshorter more hbody heq hmore
    simp_all

theorem exists_scans (cs : List Char) : ∃ pieces, Scans cs pieces := by
  -- The induction is on the length, since a comment is passed over as a whole.
  induction hlength : cs.length using Nat.strong_induction_on generalizing cs with
  | _ n ih =>
    subst hlength
    by_cases hopens : Opens cs
    · rcases hopens.exists_cons with ⟨rest, rfl⟩ | ⟨rest, rfl⟩
      · obtain ⟨body, rest, rfl, hbody, hend⟩ := exists_line rest
        obtain ⟨pieces, hpieces⟩ := ih rest.length (by simp; omega) rest rfl
        exact ⟨_, .lineComment hbody hend hpieces⟩
      · rcases exists_block rest with ⟨body, rest, rfl, hbody⟩ | hnone
        · obtain ⟨pieces, hpieces⟩ := ih rest.length (by simp; omega) rest rfl
          exact ⟨_, .blockComment hbody hpieces⟩
        · exact ⟨_, .unclosedComment hnone⟩
    · cases cs with
      | nil => exact ⟨[], .nil⟩
      | cons c rest =>
        obtain ⟨pieces, hpieces⟩ := ih rest.length (by simp) rest rfl
        exact ⟨_, .code hopens hpieces⟩

theorem Scans.unique {cs : List Char} {pieces pieces' : List Piece} (h : Scans cs pieces)
    (h' : Scans cs pieces') : pieces = pieces' := by
  -- What a text begins with admits one rule only, and comments have but one end.
  induction h generalizing pieces' with
  | nil =>
    cases h'
    rfl
  | code hcode _ ih =>
    cases h' with
    | code _ hrest => rw [ih hrest]
    | lineComment => exact absurd (opens_cons_iff.mpr ⟨rfl, Or.inl rfl⟩) hcode
    | blockComment => exact absurd (opens_cons_iff.mpr ⟨rfl, Or.inr rfl⟩) hcode
    | unclosedComment => exact absurd (opens_cons_iff.mpr ⟨rfl, Or.inr rfl⟩) hcode
  | @lineComment body rest pieces hbody hend hrest ih =>
    generalize hcs : body ++ rest = cs at h'
    cases h' with
    | code hcode => exact absurd (opens_cons_iff.mpr ⟨rfl, Or.inl rfl⟩) hcode
    | lineComment hbody' hend' hrest' =>
      obtain ⟨rfl, rfl⟩ := line_unique hbody hend hbody' hend' hcs
      rw [ih hrest']
  | @blockComment body rest pieces hbody hrest ih =>
    generalize hcs : body ++ '*' :: '/' :: rest = cs at h'
    cases h' with
    | code hcode => exact absurd (opens_cons_iff.mpr ⟨rfl, Or.inr rfl⟩) hcode
    | blockComment hbody' hrest' =>
      obtain ⟨rfl, rfl⟩ := block_unique hbody hbody' hcs
      rw [ih hrest']
    | unclosedComment hnone => exact absurd ⟨body, rest, by simp [← hcs]⟩ hnone
  | @unclosedComment body hbody =>
    generalize hcs : body = cs at h'
    cases h' with
    | code hcode => exact absurd (opens_cons_iff.mpr ⟨rfl, Or.inr rfl⟩) hcode
    | @blockComment body' rest => exact absurd ⟨body', rest, by simp [hcs]⟩ hbody
    | unclosedComment => rfl

/-- Every text is read in exactly one way. -/
theorem existsUnique_scans (cs : List Char) : ∃! pieces, Scans cs pieces := by
  obtain ⟨pieces, hpieces⟩ := exists_scans cs
  exact ⟨pieces, hpieces, fun other hother => hother.unique hpieces⟩

/-! ## Blanking out comments -/

theorem codeFrom_code_of_not_opens {c : Char} {rest : List Char} (h : ¬Opens (c :: rest)) :
    codeFrom .code (c :: rest) = c :: codeFrom .code rest := by
  cases rest with
  | nil => simp [codeFrom]
  | cons d rest =>
    rw [opens_cons_iff] at h
    rw [codeFrom]
    · rintro _ rfl heq
      obtain ⟨rfl, -⟩ := List.cons.inj heq
      exact h ⟨rfl, Or.inl rfl⟩
    · rintro _ rfl heq
      obtain ⟨rfl, -⟩ := List.cons.inj heq
      exact h ⟨rfl, Or.inr rfl⟩

theorem not_opens_newline {rest : List Char} : ¬Opens ('\n' :: rest) := by
  rintro (⟨_, h⟩ | ⟨_, h⟩)
  · simp at h
  · simp at h

/-- Of a line comment nothing is left, and what comes behind it is code. -/
theorem codeFrom_lineComment {body rest : List Char} (hbody : '\n' ∉ body)
    (hend : ∀ c ∈ rest.head?, c = '\n') : codeFrom .lineComment (body ++ rest) = codeFrom .code rest := by
  induction body with
  | nil =>
    cases rest with
    | nil => rfl
    | cons c rest =>
      obtain rfl := hend c rfl
      rw [List.nil_append, codeFrom_code_of_not_opens not_opens_newline]
      rfl
  | cons c body ih =>
    have hc : c ≠ '\n' := fun heq => hbody (heq ▸ List.mem_cons_self)
    rw [List.cons_append, codeFrom, if_neg hc, ih fun h => hbody (List.mem_cons_of_mem c h)]

/-- What is known of the character in front of the rest of a block comment. -/
def before (afterStar : Bool) : List Char := if afterStar then ['*'] else []

/-- One step: a block comment goes on unless a slash comes behind a star. -/
theorem codeFrom_blockComment_cons {afterStar : Bool} {c : Char} {body : List Char}
    (h : ¬['*', '/'] <:+: before afterStar ++ c :: body) :
    (∀ rest, codeFrom (.blockComment afterStar) (c :: rest) = codeFrom (.blockComment (c == '*')) rest) ∧
      ¬['*', '/'] <:+: before (c == '*') ++ body := by
  constructor
  · intro rest
    have hopen : ¬(afterStar && c == '/') = true := by
      intro hclose
      obtain ⟨rfl, rfl⟩ : afterStar = true ∧ c = '/' := by simpa using hclose
      exact h ⟨[], body, rfl⟩
    rw [codeFrom, if_neg hopen]
  · intro hblock
    have hsuffix : before (c == '*') ++ body <:+ c :: body := by
      by_cases hc : c = '*'
      · subst hc
        exact List.suffix_refl _
      · have hc' : (c == '*') = false := by simpa using hc
        rw [hc']
        exact List.suffix_cons c body
    exact h (hblock.trans (hsuffix.trans (List.suffix_append _ _)).isInfix)

/-- Of a block comment a blank is left, and what comes behind it is code. -/
theorem codeFrom_blockComment {afterStar : Bool} {body : List Char}
    (h : ¬['*', '/'] <:+: before afterStar ++ (body ++ ['*'])) (rest : List Char) :
    codeFrom (.blockComment afterStar) (body ++ '*' :: '/' :: rest) = ' ' :: codeFrom .code rest := by
  -- The invariant is `h`: no end has been met yet, the character before the body included.
  induction body generalizing afterStar with
  | nil =>
    obtain ⟨hstep, -⟩ := codeFrom_blockComment_cons h
    rw [List.nil_append, hstep]
    rfl
  | cons c body ih =>
    obtain ⟨hstep, hbody⟩ := codeFrom_blockComment_cons h
    rw [List.cons_append, hstep, ih hbody]

/-- A block comment that is never closed leaves a blank, too. -/
theorem codeFrom_unclosedComment {afterStar : Bool} {body : List Char}
    (h : ¬['*', '/'] <:+: before afterStar ++ body) : codeFrom (.blockComment afterStar) body = [' '] := by
  induction body generalizing afterStar with
  | nil => rfl
  | cons c body ih =>
    obtain ⟨hstep, hbody⟩ := codeFrom_blockComment_cons h
    rw [hstep, ih hbody]

/-! ## Words -/

/-- A piece as one character: a comment is a blank. -/
def Piece.shown : Piece → Char
  | .code c => c
  | .lineComment _ | .blockComment _ => ' '

theorem not_isWordChar_blank : ¬Text.isWordChar ' ' = true := by decide

theorem Piece.isWordChar_shown_iff {p : Piece} : Text.isWordChar p.shown = true ↔ p.IsWordChar := by
  cases p with
  | code c => rfl
  | lineComment body => exact iff_of_false not_isWordChar_blank id
  | blockComment body => exact iff_of_false not_isWordChar_blank id

/-- Only code is shown as a word character. -/
theorem Piece.eq_code_of_isWordChar {p : Piece} (h : Text.isWordChar p.shown = true) : p = .code p.shown := by
  cases p with
  | code c => rfl
  | lineComment body => exact absurd h not_isWordChar_blank
  | blockComment body => exact absurd h not_isWordChar_blank

/-- What parts the words of a text. -/
def parts (c : Char) : Bool := !Text.isWordChar c

theorem parts_eq_true_iff {c : Char} : parts c = true ↔ ¬Text.isWordChar c = true := by simp [parts]

theorem parts_eq_false_iff {c : Char} : parts c = false ↔ Text.isWordChar c = true := by simp [parts]

theorem mem_words_iff {cs : List Char} {word : String} :
    word ∈ words cs ↔ word.toList ∈ Text.segments parts cs := by
  rw [words, List.mem_map]
  constructor
  · rintro ⟨piece, hpiece, rfl⟩
    rwa [String.toList_ofList]
  · intro h
    exact ⟨word.toList, h, String.ofList_toList⟩

section Segments

variable {word a b : List Char}

theorem mem_segments_cons_iff {c : Char} (hword : word ≠ []) (hc : parts c = true) :
    word ∈ Text.segments parts (c :: b) ↔ word ∈ Text.segments parts b := by
  rw [Text.segments, if_pos hc, List.mem_cons]
  exact or_iff_right hword

/-- A word in two texts that are put together at a place between words is a word of one of them. -/
theorem mem_segments_append_iff (hword : word ≠ []) (hb : ∀ c ∈ b.head?, parts c = true) :
    word ∈ Text.segments parts (a ++ b) ↔ word ∈ Text.segments parts a ∨ word ∈ Text.segments parts b := by
  cases b with
  | nil => simp [Text.segments, hword]
  | cons c b =>
    have hc : parts c = true := hb c rfl
    rw [Text.segments_append_of_sep hc, List.mem_append, mem_segments_cons_iff hword hc]

/-- The words of a text without its comments are those of its pieces, whatever stands in front of both. -/
theorem mem_segments_code_iff {cs : List Char} {pieces : List Piece} (h : Scans cs pieces) (hword : word ≠ [])
    (a : List Char) : word ∈ Text.segments parts (a ++ codeFrom .code cs) ↔
      word ∈ Text.segments parts (a ++ pieces.map Piece.shown) := by
  have hblank : parts ' ' = true := by decide
  have hnewline : parts '\n' = true := by decide
  -- Behind a separator the texts may be compared on their own.
  have hparted : ∀ {a b b' : List Char}, (∀ c ∈ b.head?, parts c = true) → (∀ c ∈ b'.head?, parts c = true) →
      (word ∈ Text.segments parts b ↔ word ∈ Text.segments parts b') →
      (word ∈ Text.segments parts (a ++ b) ↔ word ∈ Text.segments parts (a ++ b')) := by
    intro a b b' hb hb' heq
    rw [mem_segments_append_iff hword hb, mem_segments_append_iff hword hb', heq]
  -- What stands in front grows by each character of code, and is parted from the rest by a comment.
  induction h generalizing a with
  | nil => rfl
  | @code c rest pieces hcode _ ih =>
    have hassoc : ∀ l : List Char, a ++ c :: l = a ++ [c] ++ l := by simp
    rw [codeFrom_code_of_not_opens hcode, List.map_cons, Piece.shown, hassoc (codeFrom .code rest),
      hassoc (pieces.map Piece.shown)]
    exact ih (a ++ [c])
  | @lineComment body rest pieces hbody hend hrest ih =>
    have hopen : codeFrom .code ('/' :: '/' :: (body ++ rest)) = codeFrom .code rest :=
      codeFrom_lineComment hbody hend
    -- The newline that ends the comment parts words already.
    have hcode : ∀ c ∈ (codeFrom .code rest).head?, parts c = true := by
      cases rest with
      | nil => simp [codeFrom]
      | cons d rest =>
        obtain rfl := hend d rfl
        rw [codeFrom_code_of_not_opens not_opens_newline]
        simpa using hnewline
    rw [hopen]
    refine hparted hcode (by simpa [Piece.shown] using hblank) ?_
    rw [List.map_cons, Piece.shown, mem_segments_cons_iff hword hblank]
    exact ih []
  | @blockComment body rest pieces hbody hrest ih =>
    have hopen : codeFrom .code ('/' :: '*' :: (body ++ '*' :: '/' :: rest)) = ' ' :: codeFrom .code rest :=
      codeFrom_blockComment hbody rest
    rw [hopen]
    refine hparted (by simpa using hblank) (by simpa [Piece.shown] using hblank) ?_
    rw [List.map_cons, Piece.shown, mem_segments_cons_iff hword hblank, mem_segments_cons_iff hword hblank]
    exact ih []
  | @unclosedComment body hbody =>
    have hopen : codeFrom .code ('/' :: '*' :: body) = [' '] := codeFrom_unclosedComment hbody
    rw [hopen]
    rfl

end Segments

/-- A word is a longest run of word characters in a row of pieces exactly if it is one in what is shown. -/
theorem isWord_iff {pieces : List Piece} {word : String} :
    IsWord pieces word ↔ word ≠ "" ∧ word.toList ∈ Text.segments parts (pieces.map Piece.shown) := by
  have hedge : ∀ {o : Option Piece}, (∀ p ∈ o, ¬p.IsWordChar) ↔ ∀ c ∈ o.map Piece.shown, parts c = true := by
    intro o
    cases o with
    | none => simp
    | some p => simp [parts_eq_true_iff, ← Piece.isWordChar_shown_iff]
  have hcode : ∀ cs : List Char, (cs.map Piece.code).map Piece.shown = cs := by
    intro cs
    rw [List.map_map]
    exact List.map_id cs
  simp only [IsWord, Text.mem_segments_iff, parts_eq_false_iff]
  refine and_congr_right fun _ => and_congr_right fun hchars => ?_
  constructor
  · rintro ⟨front, back, rfl, hfront, hback⟩
    refine ⟨front.map Piece.shown, back.map Piece.shown, by simp [hcode], ?_, ?_⟩
    · rw [List.getLast?_map]
      exact hedge.mp hfront
    · rw [List.head?_map]
      exact hedge.mp hback
  · rintro ⟨front, back, heq, hfront, hback⟩
    obtain ⟨_, back, rfl, hfirst, rfl⟩ := List.map_eq_append_iff.mp heq
    obtain ⟨front, middle, rfl, rfl, hmiddle⟩ := List.map_eq_append_iff.mp hfirst
    have hpieces : middle = word.toList.map .code := by
      rw [← hmiddle, List.map_map]
      refine (List.map_id middle).symm.trans (List.map_congr_left fun p hp => ?_)
      exact Piece.eq_code_of_isWordChar (hchars _ (hmiddle ▸ List.mem_map_of_mem hp))
    rw [hpieces]
    rw [List.getLast?_map] at hfront
    rw [List.head?_map] at hback
    exact ⟨front, back, rfl, hedge.mpr hfront, hedge.mpr hback⟩

/-- The words of a text without its comments are the words of the pieces that it is read as. -/
theorem mem_words_code_iff {text word : String} {pieces : List Piece} (h : Scans text.toList pieces)
    (hword : word ≠ "") : word ∈ words (code text) ↔ IsWord pieces word := by
  have hne : word.toList ≠ [] := by simpa using hword
  rw [isWord_iff, mem_words_iff, code]
  exact (mem_segments_code_iff h hne []).trans (and_iff_right hword).symm

end ProfileBindings.Header
