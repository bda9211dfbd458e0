import ProfileBindings.Proofs.C.Lexer

/-!
# A text without its comments

What is left of a C text once its lines have been joined and its comments have been taken out. The comments are
those that the lexer finds, so that two slashes in a literal or in the name of a header begin none. Trigraphs are
left alone.

* `shown` : what one character adds to the text without comments;
* `withoutComments` : the text without comments;
* `Shows` : what a part of a text leaves, whatever stands behind it.

Main statements: `Shows.append`, what neighbouring parts leave adds up, and `Shows.withoutComments_eq`.
-/

namespace ProfileBindings.C

/-- White space, newlines included. -/
def isWhite (c : Char) : Bool := c == '\n' || isBlank c

/-- The slash that was read last, if it may begin a comment. -/
def held (p : Position) : List Char := if p.mode = .mark ['/'] then ['/'] else []

/-- What one character adds to the text without comments. A line comment leaves the newline that ends it, a block
comment leaves a blank. A slash is held back until it is known that it begins no comment. -/
def shown (p : Position) (c : Char) : List Char :=
  match p.mode with
  | .lineComment => if c = '\n' then [c] else []
  | .blockComment afterStar => if afterStar && c == '/' then [' '] else []
  | mode =>
    if mode = .mark ['/'] && (c == '/' || c == '*') then []
    else held p ++ if (step p c).2.mode = .mark ['/'] then [] else [c]

/-- What a text adds to the text without comments. -/
def shownIn (p : Position) : List Char → List Char
  | [] => []
  | c :: cs => shown p c ++ shownIn (step p c).2 cs

/-- What is left of a text behind a position, its lines being joined already. -/
def uncomment (p : Position) (cs : List Char) : List Char := shownIn p cs ++ held (run p cs).2

/-- The text without its comments, its lines joined. -/
def withoutComments (text : String) : List Char := uncomment .start (joinLines text.toList)

theorem shownIn_append (p : Position) (a b : List Char) :
    shownIn p (a ++ b) = shownIn p a ++ shownIn (run p a).2 b := by
  induction a generalizing p with
  | nil => rfl
  | cons c a ih => rw [List.cons_append, shownIn, ih, shownIn, List.append_assoc, run]

theorem uncomment_append (p : Position) (a b : List Char) :
    uncomment p (a ++ b) = shownIn p a ++ uncomment (run p a).2 b := by
  rw [uncomment, uncomment, shownIn_append, run_append, List.append_assoc]

/-- A part of a text that leaves `out`, and behind which the lexer stands at `q`. Joining the lines is part of it,
since it may join the part with what stands behind. -/
def Shows (p : Position) (part out : List Char) (q : Position) : Prop :=
  ∀ rest, uncomment p (joinLines (part ++ rest)) = out ++ uncomment q (joinLines rest)

/-! ## Lines that are not joined -/

/-- The part is not joined with what stands behind it. -/
def Apart (part : List Char) : Prop := ∀ rest, joinLines (part ++ rest) = part ++ joinLines rest

namespace Apart

theorem of_not_mem {part : List Char} (h : '\\' ∉ part) : Apart part := by
  intro rest
  induction part with
  | nil => rfl
  | cons c part ih =>
    have hc : c ≠ '\\' := fun heq => h (heq ▸ List.mem_cons_self)
    have hpart : '\\' ∉ part := fun hmem => h (List.mem_cons_of_mem c hmem)
    rw [List.cons_append, joinLines_cons fun heq => absurd heq hc, ih hpart, List.cons_append]

/-- Within a line only the last character matters. -/
theorem of_getLast? {part : List Char} (hline : '\n' ∉ part) (hlast : part.getLast? ≠ some '\\') :
    Apart part := fun _ => joinLines_append hline fun heq => absurd heq hlast

theorem append {a b : List Char} (ha : Apart a) (hb : Apart b) : Apart (a ++ b) := by
  intro rest
  rw [List.append_assoc, ha, hb, List.append_assoc]

end Apart

namespace Shows

variable {p q r : Position} {a b out out' : List Char}

theorem append (ha : Shows p a out q) (hb : Shows q b out' r) : Shows p (a ++ b) (out ++ out') r := by
  intro rest
  rw [List.append_assoc, ha, hb, List.append_assoc]

theorem append_text {s t : String} (hs : Shows p s.toList out q) (ht : Shows q t.toList out' r) :
    Shows p (s ++ t).toList (out ++ out') r := by
  rw [String.toList_append]
  exact hs.append ht

theorem of_apart (apart : Apart a) (hshown : shownIn p a = out) (hrun : (run p a).2 = q) : Shows p a out q := by
  intro rest
  rw [apart, uncomment_append, hshown, hrun]

/-- A fixed text, spelled out. -/
theorem literal {s : String} {cs : List Char} (hs : s = String.ofList cs) (apart : cs.contains '\\' = false)
    (hshown : shownIn p cs = out) (hrun : (run p cs).2 = q) : Shows p s.toList out q := by
  rw [hs, String.toList_ofList]
  exact of_apart (.of_not_mem (by simpa using apart)) hshown hrun

/-- What is left of a text that begins with the part. -/
theorem withoutComments_eq {s rest : String} (h : Shows .start s.toList out .start) :
    withoutComments (s ++ rest) = out ++ withoutComments rest := by
  rw [withoutComments, String.toList_append, h, withoutComments]

end Shows

/-! ## Comments -/

section Comments

variable {l : Line} {cs : List Char}

theorem shownIn_lineComment (h : '\n' ∉ cs) : shownIn ⟨l, .lineComment⟩ cs = [] := by
  induction cs with
  | nil => rfl
  | cons c cs ih =>
    have h' : c ≠ '\n' ∧ '\n' ∉ cs := by simpa [eq_comm] using h
    have hstep : step ⟨l, .lineComment⟩ c = ([], ⟨l, .lineComment⟩) := by simp [step, h'.1]
    have hshown : shown ⟨l, .lineComment⟩ c = [] := if_neg h'.1
    rw [shownIn, hshown, hstep, ih h'.2, List.append_nil]

/-- A line comment leaves the newline that ends it. -/
theorem shows_lineComment (hline : '\n' ∉ cs) (hlast : cs.getLast? ≠ some '\\') :
    Shows ⟨l, .lineComment⟩ (cs ++ ['\n']) ['\n'] .start := by
  have hend : Apart ['\n'] := .of_not_mem (by decide)
  refine .of_apart ((Apart.of_getLast? hline hlast).append hend) ?_ ?_
  · rw [shownIn_append, shownIn_lineComment hline, run_lineComment hline]
    rfl
  · rw [run_append, run_lineComment hline]
    rfl

/-- A line comment with a backslash at its end goes on up to the end of the next line. -/
theorem shows_joinedComment {next : List Char} (hline : '\n' ∉ cs) (hnext : '\n' ∉ next)
    (hlast : next.getLast? ≠ some '\\') :
    Shows ⟨l, .lineComment⟩ (cs ++ '\\' :: '\n' :: (next ++ ['\n'])) ['\n'] .start := by
  intro rest
  have hjoin : joinLines (cs ++ '\\' :: '\n' :: (next ++ ['\n']) ++ rest)
      = cs ++ joinLines (next ++ ['\n'] ++ rest) := by
    rw [List.append_assoc, joinLines_append hline fun _ => by simp]
    rfl
  rw [hjoin, uncomment_append, shownIn_lineComment hline, run_lineComment hline]
  exact shows_lineComment hnext hlast rest

/-- A block comment goes on behind a text without slashes. -/
theorem exists_blockComment (hslash : '/' ∉ cs) (afterStar : Bool) :
    ∃ afterStar', shownIn ⟨l, .blockComment afterStar⟩ cs = [] ∧
      (run ⟨l, .blockComment afterStar⟩ cs).2 = ⟨l, .blockComment afterStar'⟩ := by
  induction cs generalizing afterStar with
  | nil => exact ⟨afterStar, rfl, rfl⟩
  | cons c cs ih =>
    have h' : c ≠ '/' ∧ '/' ∉ cs := by simpa [eq_comm] using hslash
    have hstep : step ⟨l, .blockComment afterStar⟩ c = ([], ⟨l, .blockComment (c == '*')⟩) := by
      simp [step, h'.1]
    have hshown : shown ⟨l, .blockComment afterStar⟩ c = [] := by simp [shown, h'.1]
    obtain ⟨afterStar', hrest, hrun⟩ := ih h'.2 (c == '*')
    refine ⟨afterStar', ?_, ?_⟩
    · rw [shownIn, hshown, hstep, hrest, List.append_nil]
    · rw [run, hstep]
      exact hrun

/-- A block comment leaves a blank. -/
theorem shows_blockComment (hslash : '/' ∉ cs) (hback : '\\' ∉ cs) :
    Shows (.between l) ('/' :: '*' :: (cs ++ ['*', '/'])) [' '] (.between l) := by
  obtain ⟨afterStar, hshown, hrun⟩ := exists_blockComment (l := l) hslash false
  have hopen : shownIn (.between l) ['/', '*'] = [] := rfl
  have hopened : (run (.between l) ['/', '*']).2 = ⟨l, .blockComment false⟩ := rfl
  have hclose : shownIn ⟨l, .blockComment afterStar⟩ ['*', '/'] = [' '] := by cases afterStar <;> rfl
  have hclosed : (run ⟨l, .blockComment afterStar⟩ ['*', '/']).2 = .between l := by cases afterStar <;> rfl
  have hparts : '/' :: '*' :: (cs ++ ['*', '/']) = ['/', '*'] ++ (cs ++ ['*', '/']) := rfl
  refine .of_apart (.of_not_mem (by simpa using hback)) ?_ ?_
  · rw [hparts, shownIn_append, shownIn_append, hopen, hopened, hshown, hrun, hclose]
    rfl
  · rw [hparts, run_append, run_append, hopened, hrun, hclosed]

end Comments

/-! ## Names of headers -/

theorem shownIn_headerName {l : Line} {w cs : List Char} (hline : '\n' ∉ cs) (hquote : '"' ∉ cs) :
    shownIn ⟨l, .headerName '"' w⟩ cs = cs := by
  induction cs generalizing w with
  | nil => rfl
  | cons c cs ih =>
    have hn : c ≠ '\n' ∧ '\n' ∉ cs := by simpa [eq_comm] using hline
    have hq : c ≠ '"' ∧ '"' ∉ cs := by simpa [eq_comm] using hquote
    have hstep : step ⟨l, .headerName '"' w⟩ c = ([], ⟨l, .headerName '"' (w ++ [c])⟩) := by
      simp [step, hn.1, hq.1]
    have hshown : shown ⟨l, .headerName '"' w⟩ c = [c] := by simp [shown, hstep, held]
    rw [shownIn, hshown, hstep, ih hn.2 hq.2, List.singleton_append]

/-- The name of a header stays as it is, whatever it is made of. -/
theorem shows_headerName {cs : List Char} (hline : '\n' ∉ cs) (hquote : '"' ∉ cs) :
    Shows ⟨.inclusion, .headerName '"' []⟩ (cs ++ ['"']) (cs ++ ['"']) (.between .directive) := by
  refine .of_apart (.of_getLast? (by simpa using hline) (by simp)) ?_ ?_
  · rw [shownIn_append, shownIn_headerName hline hquote, run_headerName hline hquote]
    rfl
  · rw [run_append, run_headerName hline hquote]
    rfl

end ProfileBindings.C
