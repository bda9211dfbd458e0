import ProfileBindings.C.Literal
import ProfileBindings.Proofs.C.Phases
import ProfileBindings.Proofs.C.Token
import ProfileBindings.Text.Words

/-!
# Cutting a C text into tokens

The lexer is an automaton over the characters that the translation phases leave. Comments separate tokens
and are dropped. A line whose first token is `#` is a directive, and its tokens are dropped too: headers are
not included and macros are not expanded, so that words such as `true` and `NULL` stay words. Behind
`#include` a quote opens the name of a header, in which a backslash is nothing special.

Not covered, since nothing here is written with them: digraphs, `...`, prefixes of literals, numbers with a
signed exponent, and characters outside ASCII in identifiers.

* `step`, `run` : the automaton on a character, and on a text;
* `tokens` : the tokens of a text;
* `Reads` : what reading a part of a text contributes, whatever stands behind it.

Main statements: `Reads.append`, readings of neighbouring parts add up, and `tokens_of_reads`.
-/

namespace ProfileBindings.C

/-- What has been seen of the line. -/
inductive Line where
  /-- No token so far. -/
  | fresh
  /-- Tokens, and the line is no directive. -/
  | plain
  /-- A directive whose name has not come yet. -/
  | hash
  /-- An inclusion, its header not yet named. -/
  | inclusion
  /-- A directive of which nothing more matters. -/
  | directive
deriving DecidableEq, Repr

/-- What is being read. -/
inductive Mode where
  | between
  | word (spelling : List Char)
  | number (spelling : List Char)
  | mark (spelling : List Char)
  | lineComment
  | blockComment (afterStar : Bool)
  | literal (quote : Char) (spelling : List Char)
  /-- In a literal, behind a backslash. -/
  | escape (quote : Char) (spelling : List Char)
  | headerName (ending : Char) (spelling : List Char)
deriving DecidableEq, Repr

/-- Where the lexer stands. -/
structure Position where
  line : Line
  mode : Mode
deriving DecidableEq, Repr

/-- Between two tokens. -/
abbrev Position.between (line : Line) : Position := ⟨line, .between⟩

/-- At the beginning of a line, outside comments. -/
abbrev Position.start : Position := .between .fresh

/-- The punctuators of more than one character. -/
def longMarks : List (List Char) := [
  ['-', '>'], ['+', '+'], ['-', '-'], ['<', '<'], ['>', '>'], ['<', '='], ['>', '='], ['=', '='],
  ['!', '='], ['&', '&'], ['|', '|'], ['*', '='], ['/', '='], ['%', '='], ['+', '='], ['-', '='],
  ['<', '<', '='], ['>', '>', '='], ['&', '='], ['^', '='], ['|', '='], ['#', '#']]

/-- The characters that punctuators other than brackets begin with. -/
def isMark (c : Char) : Bool :=
  [',', ';', '.', ':', '=', '*', '#', '&', '+', '-', '~', '!', '/', '%', '<', '>', '^', '|', '?'].contains c

/-- White space other than a newline. -/
def isBlank (c : Char) : Bool := [' ', '\t', '\r', '\x0b', '\x0c'].contains c

/-- A token on a line: what of it is kept, and what is now known of the line. -/
def emit : Line → Token → List Token × Line
  | .fresh, t => if t = .atom (.mark "#") then ([], .hash) else ([t], .plain)
  | .plain, t => ([t], .plain)
  | .hash, t => if t = .atom (.word "include") then ([], .inclusion) else ([], .directive)
  | .inclusion, _ => ([], .directive)
  | .directive, _ => ([], .directive)

/-- A token ends with the character just read. -/
def finish (line : Line) (t : Token) : List Token × Position :=
  ((emit line t).1, .between (emit line t).2)

/-- A character between two tokens. -/
def enter (line : Line) (c : Char) : List Token × Position :=
  if c == '\n' then ([], .start)
  else if isBlank c then ([], .between line)
  else if Text.isWordStart c then ([], ⟨line, .word [c]⟩)
  else if c == '"' then
    ([], ⟨line, if line = .inclusion then .headerName '"' [] else .literal '"' []⟩)
  else if c == '<' && line = .inclusion then ([], ⟨line, .headerName '>' []⟩)
  else if c == '\'' then ([], ⟨line, .literal '\'' []⟩)
  else if c.isDigit then ([], ⟨line, .number [c]⟩)
  else if isMark c then ([], ⟨line, .mark [c]⟩)
  else match Bracket.opened? c, Bracket.closed? c with
    | some b, _ => finish line (.opening b)
    | none, some b => finish line (.closing b)
    | none, none => finish line (.atom (.stray c))

/-- A token ends in front of the character. -/
def finishBefore (line : Line) (t : Token) (c : Char) : List Token × Position :=
  ((emit line t).1 ++ (enter (emit line t).2 c).1, (enter (emit line t).2 c).2)

/-- The token of a literal. -/
def literalToken (quote : Char) (spelling : List Char) : Token :=
  .atom (if quote == '"' then .text spelling else .character spelling)

/-- One character: the tokens that end with it or in front of it, and the position behind it. A literal
cannot go beyond its line. -/
def step (p : Position) (c : Char) : List Token × Position :=
  match p.mode with
  | .between => enter p.line c
  | .word w =>
    if Text.isWordChar c then ([], ⟨p.line, .word (w ++ [c])⟩)
    else finishBefore p.line (.atom (.word (String.ofList w))) c
  | .number w =>
    if Text.isWordChar c || c == '.' then ([], ⟨p.line, .number (w ++ [c])⟩)
    else finishBefore p.line (.atom (.number (String.ofList w))) c
  | .mark w =>
    if w = ['/'] && c == '/' then ([], ⟨p.line, .lineComment⟩)
    else if w = ['/'] && c == '*' then ([], ⟨p.line, .blockComment false⟩)
    else if longMarks.contains (w ++ [c]) then ([], ⟨p.line, .mark (w ++ [c])⟩)
    else finishBefore p.line (.atom (.mark (String.ofList w))) c
  | .lineComment => if c == '\n' then ([], .start) else ([], p)
  | .blockComment afterStar =>
    if afterStar && c == '/' then ([], .between p.line) else ([], ⟨p.line, .blockComment (c == '*')⟩)
  | .literal quote w =>
    if c == quote then finish p.line (literalToken quote w)
    else if c == '\\' then ([], ⟨p.line, .escape quote (w ++ [c])⟩)
    else if c == '\n' then ((emit p.line (.atom (.stray quote))).1, .start)
    else ([], ⟨p.line, .literal quote (w ++ [c])⟩)
  | .escape quote w =>
    if c == '\n' then ((emit p.line (.atom (.stray quote))).1, .start)
    else ([], ⟨p.line, .literal quote (w ++ [c])⟩)
  | .headerName ending w =>
    if c == ending then finish p.line (.atom (.headerName w))
    else if c == '\n' then ([], .start)
    else ([], ⟨p.line, .headerName ending (w ++ [c])⟩)

/-- The tokens that end within a text, and the position behind it. -/
def run (p : Position) : List Char → List Token × Position
  | [] => ([], p)
  | c :: cs => ((step p c).1 ++ (run (step p c).2 cs).1, (run (step p c).2 cs).2)

/-- The token that the end of the text ends. -/
def pending (p : Position) : List Token :=
  match p.mode with
  | .word w => (emit p.line (.atom (.word (String.ofList w)))).1
  | .number w => (emit p.line (.atom (.number (String.ofList w)))).1
  | .mark w => (emit p.line (.atom (.mark (String.ofList w)))).1
  | .literal quote _ => (emit p.line (.atom (.stray quote))).1
  | .escape quote _ => (emit p.line (.atom (.stray quote))).1
  | _ => []

/-- The tokens of a text. -/
def tokens (text : String) : List Token :=
  (run .start (phases text.toList)).1 ++ pending (run .start (phases text.toList)).2

/-! ## Reading a part of a text -/

theorem run_append (p : Position) (a b : List Char) :
    run p (a ++ b) = ((run p a).1 ++ (run (run p a).2 b).1, (run (run p a).2 b).2) := by
  induction a generalizing p with
  | nil => rfl
  | cons c a ih => simp only [List.cons_append, run, ih, List.append_assoc]

/-- A part of a text that gives these tokens, and behind which the lexer stands at `q`. The translation
phases are part of the reading, since they may join the part with what stands behind it. -/
def Reads (p : Position) (part : List Char) (ts : List Token) (q : Position) : Prop :=
  ∀ rest, run p (phases (part ++ rest)) = (ts ++ (run q (phases rest)).1, (run q (phases rest)).2)

namespace Reads

variable {p q r : Position} {a b : List Char} {ts us : List Token}

theorem nil : Reads p [] [] p := fun _ => rfl

theorem append (ha : Reads p a ts q) (hb : Reads q b us r) : Reads p (a ++ b) (ts ++ us) r := by
  intro rest
  rw [List.append_assoc, ha, hb, List.append_assoc]

/-- The phases may be left out for a text that they leave alone. -/
theorem of_calm (calm : Calm a) (h : run p a = (ts, q)) : Reads p a ts q := by
  intro rest
  rw [calm, run_append, h]

/-- A part without question marks and backslashes. -/
theorem of_loners (loners : a.all isLoner = true) (h : run p a = (ts, q)) : Reads p a ts q :=
  of_calm (calm_of_loners loners) h

end Reads

/-- The tokens of a text that is read to the end of a line. -/
theorem tokens_of_reads {text : String} {ts : List Token}
    (h : Reads .start text.toList ts .start) : tokens text = ts := by
  have h' := h []
  simp only [List.append_nil] at h'
  unfold tokens
  rw [h']
  simp [run, phases, replaceTrigraphs, joinLines, pending]

/-! ## Texts in rows -/

/-- A fixed text, spelled out. -/
theorem Reads.literal {p q : Position} {s : String} {cs : List Char} {ts : List Token}
    (hs : s = String.ofList cs) (loners : cs.all isLoner = true) (h : run p cs = (ts, q)) :
    Reads p s.toList ts q := by
  rw [hs, String.toList_ofList]
  exact Reads.of_loners loners h

theorem Reads.append_text {p q r : Position} {s t : String} {ts us : List Token}
    (hs : Reads p s.toList ts q) (ht : Reads q t.toList us r) : Reads p (s ++ t).toList (ts ++ us) r := by
  rw [String.toList_append]
  exact hs.append ht

/-- A fixed line with its end, the line spelled out. -/
theorem Reads.line {p q : Position} {line : String} {cs : List Char} {ts : List Token}
    (hs : line = String.ofList cs) (loners : cs.all isLoner = true)
    (h : run p (cs ++ ['\n']) = (ts, q)) : Reads p (line ++ "\n").toList ts q := by
  rw [String.toList_append, hs, String.toList_ofList]
  refine Reads.of_loners ?_ h
  rw [List.all_append, loners]
  rfl

theorem lines_cons (line : String) (l : List String) : lines (line :: l) = line ++ "\n" ++ lines l := by
  rw [lines, List.map_cons, String.join_cons]
  rfl

theorem lines_append (l m : List String) : lines (l ++ m) = lines l ++ lines m := by
  rw [lines, List.map_append, String.join_append]
  rfl

theorem Reads.lines_cons {p q r : Position} {line : String} {l : List String} {ts us : List Token}
    (hline : Reads p (line ++ "\n").toList ts q) (hl : Reads q (lines l).toList us r) :
    Reads p (lines (line :: l)).toList (ts ++ us) r := by
  rw [C.lines_cons]
  exact hline.append_text hl

theorem Reads.join {α : Type} {p : Position} {l : List α} {f : α → String} {g : α → List Token}
    (h : ∀ a ∈ l, Reads p (f a).toList (g a) p) :
    Reads p (String.join (l.map f)).toList (l.flatMap g) p := by
  induction l with
  | nil => exact Reads.nil
  | cons a l ih =>
    rw [List.map_cons, String.join_cons, List.flatMap_cons]
    exact (h a List.mem_cons_self).append_text (ih fun b hb => h b (List.mem_cons_of_mem a hb))

/-- Whole lines that give these tokens. -/
def ReadsLines (l : List String) (ts : List Token) : Prop :=
  Reads .start (lines l).toList ts .start

namespace ReadsLines

variable {l m : List String} {ts us : List Token}

theorem nil : ReadsLines [] [] := Reads.nil

theorem one {line : String} (h : Reads .start (line ++ "\n").toList ts .start) :
    ReadsLines [line] ts := by
  unfold ReadsLines lines
  rwa [List.map_singleton, String.join_cons, String.join_nil, String.append_empty]

/-- A fixed line, spelled out. -/
theorem literal {line : String} {cs : List Char} (hs : line = String.ofList cs)
    (loners : cs.all isLoner = true) (h : run .start (cs ++ ['\n']) = (ts, .start)) :
    ReadsLines [line] ts := one (Reads.line hs loners h)

/-- The empty line. -/
theorem blank : ReadsLines [""] [] := by
  have hempty : "" = String.ofList [] := rfl
  exact literal hempty rfl rfl

theorem append (hl : ReadsLines l ts) (hm : ReadsLines m us) : ReadsLines (l ++ m) (ts ++ us) := by
  unfold ReadsLines at *
  rw [lines_append]
  exact hl.append_text hm

theorem flatMap {α : Type} {l : List α} {f : α → List String} {g : α → List Token}
    (h : ∀ a ∈ l, ReadsLines (f a) (g a)) : ReadsLines (l.flatMap f) (l.flatMap g) := by
  induction l with
  | nil => exact nil
  | cons a l ih =>
    rw [List.flatMap_cons, List.flatMap_cons]
    exact (h a List.mem_cons_self).append (ih fun b hb => h b (List.mem_cons_of_mem a hb))

theorem map {α : Type} {l : List α} {f : α → String} {g : α → List Token}
    (h : ∀ a ∈ l, ReadsLines [f a] (g a)) : ReadsLines (l.map f) (l.flatMap g) := by
  rw [List.map_eq_flatMap]
  exact flatMap h

end ReadsLines

/-! ## Words, numbers and comments -/

theorem isLoner_of_isWordChar {c : Char} (h : Text.isWordChar c = true) : isLoner c = true := by
  have hq : c ≠ '?' := by rintro rfl; exact absurd h (by decide)
  have hb : c ≠ '\\' := by rintro rfl; exact absurd h (by decide)
  simp [isLoner, hq, hb]

theorem isWordChar_of_isWordStart {c : Char} (h : Text.isWordStart c = true) :
    Text.isWordChar c = true := by
  rcases (by simpa [Text.isWordStart] using h : c.isAlpha = true ∨ c = '_') with ha | rfl
  · simp [Text.isWordChar, ha]
  · decide

theorem isWordChar_of_isDigit {c : Char} (h : c.isDigit = true) : Text.isWordChar c = true := by
  simp [Text.isWordChar, h]

/-- No word character is white space. -/
theorem not_isBlank_of_isWordChar {c : Char} (h : Text.isWordChar c = true) :
    c ≠ '\n' ∧ isBlank c = false := by
  have hne : ∀ d, Text.isWordChar d = false → c ≠ d := by
    rintro d hd rfl
    exact absurd h (by simp [hd])
  refine ⟨hne _ (by decide), ?_⟩
  simp [isBlank, hne ' ' (by decide), hne '\t' (by decide), hne '\r' (by decide),
    hne '\x0b' (by decide), hne '\x0c' (by decide)]

theorem enter_of_isWordStart (l : Line) {c : Char} (h : Text.isWordStart c = true) :
    enter l c = ([], ⟨l, .word [c]⟩) := by
  have hc := not_isBlank_of_isWordChar (isWordChar_of_isWordStart h)
  simp [enter, hc.1, hc.2, h]

theorem enter_of_isDigit (l : Line) {c : Char} (h : c.isDigit = true) :
    enter l c = ([], ⟨l, .number [c]⟩) := by
  have hc := not_isBlank_of_isWordChar (isWordChar_of_isDigit h)
  have hne : ∀ d, d.isDigit = false → c ≠ d := by
    rintro d hd rfl
    exact absurd h (by simp [hd])
  -- No letter: all of them have numbers above those of the digits.
  have hdigit : c.toNat ≤ 57 := (Char.isDigit_iff_toNat.mp h).2
  have hupper : ¬c.isUpper = true := by
    intro hu
    have hbounds : 'A'.val ≤ c.val ∧ c.val ≤ 'Z'.val := of_decide_eq_true hu
    have hleast : 65 ≤ c.toNat := UInt32.le_iff_toNat_le.mp hbounds.1
    omega
  have hlower : ¬c.isLower = true := by
    intro hl
    have hleast : 97 ≤ c.toNat :=
      UInt32.le_iff_toNat_le.mp (of_decide_eq_true (Bool.and_eq_true_iff.mp hl).1)
    omega
  have halpha : c.isAlpha = false := Bool.or_eq_false_iff.mpr ⟨by simpa using hupper, by simpa using hlower⟩
  have hstart : Text.isWordStart c = false := by
    simp [Text.isWordStart, halpha, hne '_' (by decide)]
  simp [enter, hc.1, hc.2, hstart, h, hne '"' (by decide), hne '<' (by decide), hne '\'' (by decide)]

theorem run_word {l : Line} {w cs : List Char} (h : cs.all Text.isWordChar = true) :
    run ⟨l, .word w⟩ cs = ([], ⟨l, .word (w ++ cs)⟩) := by
  induction cs generalizing w with
  | nil => simp [run]
  | cons c cs ih =>
    have h' : Text.isWordChar c = true ∧ cs.all Text.isWordChar = true := by simpa using h
    have hstep : step ⟨l, .word w⟩ c = ([], ⟨l, .word (w ++ [c])⟩) := by simp [step, h'.1]
    simp only [run, hstep, ih h'.2, List.append_assoc, List.nil_append, List.singleton_append]

theorem run_lineComment {l : Line} {cs : List Char} (h : '\n' ∉ cs) :
    run ⟨l, .lineComment⟩ cs = ([], ⟨l, .lineComment⟩) := by
  induction cs with
  | nil => rfl
  | cons c cs ih =>
    have h' : c ≠ '\n' ∧ '\n' ∉ cs := by simpa [eq_comm] using h
    have hstep : step ⟨l, .lineComment⟩ c = ([], ⟨l, .lineComment⟩) := by simp [step, h'.1]
    simp only [run, hstep, ih h'.2, List.append_nil]

theorem run_headerName {l : Line} {ending : Char} {w cs : List Char} (hn : '\n' ∉ cs)
    (he : ending ∉ cs) :
    run ⟨l, .headerName ending w⟩ cs = ([], ⟨l, .headerName ending (w ++ cs)⟩) := by
  induction cs generalizing w with
  | nil => simp [run]
  | cons c cs ih =>
    have hn' : c ≠ '\n' ∧ '\n' ∉ cs := by simpa [eq_comm] using hn
    have he' : c ≠ ending ∧ ending ∉ cs := by simpa [eq_comm] using he
    have hstep : step ⟨l, .headerName ending w⟩ c = ([], ⟨l, .headerName ending (w ++ [c])⟩) := by
      simp [step, hn'.1, he'.1]
    simp only [run, hstep, ih hn'.2 he'.2, List.append_assoc, List.nil_append,
      List.singleton_append]

theorem run_number {l : Line} {w cs : List Char} (h : ∀ c ∈ cs, c.isDigit = true) :
    run ⟨l, .number w⟩ cs = ([], ⟨l, .number (w ++ cs)⟩) := by
  induction cs generalizing w with
  | nil => simp [run]
  | cons c cs ih =>
    have hc : Text.isWordChar c = true := isWordChar_of_isDigit (h c List.mem_cons_self)
    have hstep : step ⟨l, .number w⟩ c = ([], ⟨l, .number (w ++ [c])⟩) := by simp [step, hc]
    simp only [run, hstep, ih fun d hd => h d (List.mem_cons_of_mem c hd), List.append_assoc,
      List.nil_append, List.singleton_append]

/-! ## Parts that come from outside

An identifier or a numeral is a token of its own if what stands behind it cannot belong to it.
-/

/-- The text begins with a character that ends a word or a number in front of it. -/
def beginsApart : List Char → Bool
  | [] => false
  | c :: _ => isLoner c && !Text.isWordChar c && c != '.'

/-- A token may stand here, since the line is no directive. -/
def Line.IsOpen (l : Line) : Prop := l = .fresh ∨ l = .plain

theorem emit_of_open {l : Line} (hl : l.IsOpen) {t : Token} (ht : t ≠ .atom (.mark "#")) :
    emit l t = ([t], .plain) := by
  rcases hl with rfl | rfl
  · exact if_neg ht
  · rfl

/-- What reads like a token up to here is one, if the text behind it begins apart. The line says what is kept
of it. -/
theorem Reads.emitted {l l' : Line} {m : Mode} {t : Token} {us : List Token} (hemit : emit l t = (us, l'))
    (hend : ∀ c, Text.isWordChar c = false → c ≠ '.' → step ⟨l, m⟩ c = finishBefore l t c)
    {a b : List Char} {ts : List Token} {q : Position} (ha : Reads (.between l) a [] ⟨l, m⟩)
    (apart : beginsApart b = true) (hb : Reads (.between l') b ts q) :
    Reads (.between l) (a ++ b) (us ++ ts) q := by
  intro rest
  -- What stands behind is not empty, and its first character takes no part in a pair.
  cases b with
  | nil => contradiction
  | cons c b =>
    have hc : (isLoner c = true ∧ Text.isWordChar c = false) ∧ c ≠ '.' := by
      simpa [beginsApart] using apart
    have hphases := phases_cons_of_isLoner hc.1.1 (b ++ rest)
    have hrest := hb rest
    rw [List.append_assoc, ha, List.cons_append, hphases, run, hend c hc.1.2 hc.2]
    rw [List.cons_append, hphases, run] at hrest
    -- `c` ends the token and is then read as it is in `hrest`, on the line behind the token.
    rw [finishBefore, hemit]
    have hfirst := congrArg (fun read => us ++ read.1) hrest
    have hsecond := congrArg Prod.snd hrest
    simp only [List.nil_append, List.append_assoc] at hfirst ⊢
    exact Prod.ext hfirst hsecond

/-- On a line that is no directive, a token is kept. -/
theorem Reads.token {l : Line} (hl : l.IsOpen) {m : Mode} {t : Token} (ht : t ≠ .atom (.mark "#"))
    (hend : ∀ c, Text.isWordChar c = false → c ≠ '.' → step ⟨l, m⟩ c = finishBefore l t c)
    {a b : List Char} {ts : List Token} {q : Position} (ha : Reads (.between l) a [] ⟨l, m⟩)
    (apart : beginsApart b = true) (hb : Reads (.between .plain) b ts q) :
    Reads (.between l) (a ++ b) (t :: ts) q :=
  Reads.emitted (emit_of_open hl ht) hend ha apart hb

/-- A numeral consists of digits. -/
theorem isDigit_of_mem_toString {n : Nat} {c : Char} (h : c ∈ (toString n).toList) :
    c.isDigit = true := by
  have h' : c ∈ Nat.toDigits 10 n := by simpa using h
  exact Nat.isDigit_of_mem_toDigits (by decide) (by decide) h'

theorem exists_cons_of_isIdentifier {name : String} (h : Text.isIdentifier name = true) :
    ∃ c cs, name.toList = c :: cs ∧ Text.isWordStart c = true ∧ cs.all Text.isWordChar = true := by
  unfold Text.isIdentifier at h
  split at h
  · contradiction
  · next c cs hname => exact ⟨c, cs, hname, by simpa using h⟩

theorem isWordChar_of_mem_identifier {name : String} (h : Text.isIdentifier name = true) {c : Char}
    (hc : c ∈ name.toList) : Text.isWordChar c = true := by
  obtain ⟨d, ds, hname, hd, hds⟩ := exists_cons_of_isIdentifier h
  rw [hname] at hc
  rcases List.mem_cons.mp hc with rfl | hc
  · exact isWordChar_of_isWordStart hd
  · exact List.all_eq_true.mp hds c hc

theorem reads_wordRun (l : Line) {name : String} (h : Text.isIdentifier name = true) :
    Reads (.between l) name.toList [] ⟨l, .word name.toList⟩ := by
  apply Reads.of_loners
  · rw [List.all_eq_true]
    exact fun c hc => isLoner_of_isWordChar (isWordChar_of_mem_identifier h hc)
  · obtain ⟨c, cs, hname, hc, hcs⟩ := exists_cons_of_isIdentifier h
    have hstep : step (.between l) c = ([], ⟨l, .word [c]⟩) := enter_of_isWordStart l hc
    simp only [hname, run, hstep, run_word hcs, List.nil_append, List.singleton_append]

theorem reads_digits (l : Line) (n : Nat) :
    Reads (.between l) (toString n).toList [] ⟨l, .number (toString n).toList⟩ := by
  have hne : (toString n).toList ≠ [] := by
    simp [Nat.toString_eq_repr, Nat.toList_repr, Nat.toDigits_ne_nil]
  apply Reads.of_loners
  · rw [List.all_eq_true]
    intro c hc
    exact isLoner_of_isWordChar (isWordChar_of_isDigit (isDigit_of_mem_toString hc))
  · have hdigits : ∀ c ∈ (toString n).toList, c.isDigit = true := fun c => isDigit_of_mem_toString
    obtain ⟨c, cs, hcs⟩ := List.exists_cons_of_ne_nil hne
    rw [hcs] at hdigits ⊢
    have hstep : step (.between l) c = ([], ⟨l, .number [c]⟩) :=
      enter_of_isDigit l (hdigits c List.mem_cons_self)
    simp only [run, hstep, run_number fun d hd => hdigits d (List.mem_cons_of_mem c hd),
      List.nil_append, List.singleton_append]

/-- An identifier is read as a word. -/
theorem Reads.identifier {l : Line} (hl : l.IsOpen) {name s : String} {ts : List Token} {q : Position}
    (h : Text.isIdentifier name = true) (apart : beginsApart s.toList = true)
    (hs : Reads (.between .plain) s.toList ts q) :
    Reads (.between l) (name ++ s).toList (.atom (.word name) :: ts) q := by
  rw [String.toList_append]
  refine Reads.token hl (by simp) (fun c hc _ => ?_) (reads_wordRun l h) apart hs
  simp [step, hc]

theorem step_digits (l : Line) (n : Nat) (c : Char) (hc : Text.isWordChar c = false) (hdot : c ≠ '.') :
    step ⟨l, .number (toString n).toList⟩ c = finishBefore l (.atom (.number (toString n))) c := by
  simp only [step, hc, hdot, Bool.false_or, beq_iff_eq, if_false, String.ofList_toList]

/-- A numeral is read as a number. -/
theorem Reads.numeral {l : Line} (hl : l.IsOpen) {n : Nat} {s : String} {ts : List Token}
    {q : Position} (apart : beginsApart s.toList = true) (hs : Reads (.between .plain) s.toList ts q) :
    Reads (.between l) (toString n ++ s).toList (.atom (.number (toString n)) :: ts) q := by
  rw [String.toList_append]
  exact Reads.token hl (by simp) (step_digits l n) (reads_digits l n) apart hs

/-- In a directive, a numeral is dropped. -/
theorem Reads.droppedNumeral {n : Nat} {s : String} {ts : List Token} {q : Position}
    (apart : beginsApart s.toList = true) (hs : Reads (.between .directive) s.toList ts q) :
    Reads (.between .directive) (toString n ++ s).toList ts q := by
  rw [String.toList_append]
  exact Reads.emitted rfl (step_digits .directive n) (reads_digits .directive n) apart hs

end ProfileBindings.C
