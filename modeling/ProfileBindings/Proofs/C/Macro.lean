import ProfileBindings.Proofs.C.Evaluation

/-!
# Macros of a C text

The lexer drops directives. Here they are looked for again: a line that begins outside comments and literals,
and whose first character is `#`, is a directive, and if it is a definition, it defines a macro. Macros
with parameters are not told from those without; none are written here.

* `Macro.ofLine?`, `macros` : the macro of a line, and the macros of a text;
* `macro?` : the number that a macro stands for;
* `HasLines`, `NoDirectives` : the lines of a part of a text, and that none is a directive;
* `Defines` : the macros of a part of a text, whatever stands behind it;
* `Contributes` : the tokens and the macros of whole lines.

Main statements: `Contributes.append`, `Contributes.of_noDirectives` and `OpensConstant.contributes`, the rules for
parts in a row, for lines without directives and for the definition of a constant.
-/

namespace ProfileBindings.C

/-- A macro: its name, and the tokens that it stands for. -/
structure Macro where
  name : String
  body : List Token
deriving DecidableEq, Repr

/-- The line is a directive. -/
def isDirective (line : List Char) : Bool := (line.dropWhile isBlank).head? = some '#'

/-- The macro that the tokens behind the `#` of a directive define. -/
def Macro.ofTokens? : List Token → Option Macro
  | .atom (.word "define") :: .atom (.word name) :: body => some ⟨name, body⟩
  | _ => none

/-- The macro that a directive defines. -/
def Macro.ofLine? (line : List Char) : Option Macro :=
  ofTokens? (run (.between .plain) ((line.dropWhile isBlank).tail ++ ['\n'])).1

/-- The lines of a text behind the translation phases. -/
def linesOf (cs : List Char) : List (List Char) := cs.splitOnP (· == '\n')

/-- The macros of lines, of which the first begins at a position. -/
def macrosFrom (p : Position) : List (List Char) → List Macro
  | [] => []
  | line :: rest =>
    (if p = .start && isDirective line then (Macro.ofLine? line).toList else [])
      ++ macrosFrom (run p (line ++ ['\n'])).2 rest

/-- The macros that a text defines. -/
def macros (text : String) : List Macro := macrosFrom .start (linesOf (phases text.toList))

/-- The number that a macro stands for, if it is defined once and as a constant. -/
def macro? (text name : String) : Option Nat :=
  match (macros text).filter (·.name = name) with
  | [⟨_, [.atom (.number digits)]⟩] => constant? digits.toList
  | _ => none

theorem Macro.ofTokens?_of_ne {w : String} (h : w ≠ "define") (ts : List Token) :
    ofTokens? (.atom (.word w) :: ts) = none := by
  unfold ofTokens?
  split
  · next heq => exact absurd (by simpa using (List.cons.inj heq).1) h
  · rfl

/-- A directive that begins with another word defines nothing. -/
theorem macrosFrom_of_ne {p q : Position} {w : String} {cs rest : List Char} {ts : List Token}
    (h : run (.between .plain) cs = (.atom (.word w) :: ts, q)) (hw : w ≠ "define") :
    macrosFrom p ['#' :: (cs ++ rest)] = [] := by
  have hline : Macro.ofLine? ('#' :: (cs ++ rest)) = none := by
    show Macro.ofTokens? (run (.between .plain) (cs ++ rest ++ ['\n'])).1 = none
    rw [List.append_assoc, run_append, h]
    exact Macro.ofTokens?_of_ne hw _
  rw [macrosFrom, hline, Option.toList_none, ite_self]
  rfl

/-! ## Lines in rows -/

/-- The position behind lines. -/
def after (p : Position) (ls : List (List Char)) : Position :=
  (run p (ls.flatMap (· ++ ['\n']))).2

theorem after_cons (p : Position) (line : List Char) (ls : List (List Char)) :
    after p (line :: ls) = after (run p (line ++ ['\n'])).2 ls := by
  rw [after, List.flatMap_cons, run_append]
  rfl

theorem macrosFrom_append (p : Position) (ls ls' : List (List Char)) :
    macrosFrom p (ls ++ ls') = macrosFrom p ls ++ macrosFrom (after p ls) ls' := by
  induction ls generalizing p with
  | nil => rfl
  | cons line ls ih => rw [List.cons_append, macrosFrom, macrosFrom, ih, after_cons, List.append_assoc]

theorem macrosFrom_eq_nil {p : Position} {ls : List (List Char)} (h : ∀ line ∈ ls, isDirective line = false) :
    macrosFrom p ls = [] := by
  induction ls generalizing p with
  | nil => rfl
  | cons line ls ih =>
    obtain ⟨hline, hls⟩ := List.forall_mem_cons.mp h
    simp [macrosFrom, hline, ih hls]

theorem linesOf_flatMap {ls : List (List Char)} (h : ∀ line ∈ ls, '\n' ∉ line) (rest : List Char) :
    linesOf (ls.flatMap (· ++ ['\n']) ++ rest) = ls ++ linesOf rest := by
  induction ls with
  | nil => rfl
  | cons line ls ih =>
    obtain ⟨hline, hls⟩ := List.forall_mem_cons.mp h
    have hnone : ∀ c ∈ line, (c == '\n') = false := fun c hc => by
      simpa using fun heq : c = '\n' => hline (heq ▸ hc)
    rw [List.flatMap_cons, List.append_assoc, List.append_assoc, List.singleton_append, linesOf,
      List.splitOnP_append_cons_of_forall_mem hnone _ rfl, List.cons_append, ← ih hls]
    rfl

/-! ## Parts of a text -/

/-- Behind the translation phases, the part is whole lines. -/
structure HasLines (part : List Char) (ls : List (List Char)) : Prop where
  phases : ∀ rest, C.phases (part ++ rest) = ls.flatMap (· ++ ['\n']) ++ C.phases rest
  ended : ∀ line ∈ ls, '\n' ∉ line

namespace HasLines

variable {a b : List Char} {ls ls' : List (List Char)}

theorem append (ha : HasLines a ls) (hb : HasLines b ls') : HasLines (a ++ b) (ls ++ ls') := by
  constructor
  · intro rest
    rw [List.append_assoc, ha.phases, hb.phases, List.flatMap_append, List.append_assoc]
  · intro line hline
    rcases List.mem_append.mp hline with h | h
    · exact ha.ended line h
    · exact hb.ended line h

/-- One line is read as it is behind the translation phases. -/
theorem reads {p q : Position} {line : List Char} {ts : List Token} (h : HasLines a [line])
    (hrun : run p (line ++ ['\n']) = (ts, q)) : Reads p a ts q := by
  intro rest
  rw [h.phases, List.flatMap_singleton, run_append, hrun]

/-- What stands in front of a line belongs to it. -/
theorem prepend {s : String} {line : List Char} (loners : s.toList.all isLoner = true) (ended : '\n' ∉ s.toList)
    (h : HasLines a [line]) : HasLines (s.toList ++ a) [s.toList ++ line] := by
  constructor
  · intro rest
    rw [List.append_assoc, calm_of_loners loners, h.phases]
    simp
  · have hline : '\n' ∉ line := h.ended line List.mem_cons_self
    simpa [hline] using ended

/-- One line without question marks and backslashes. -/
theorem one {line : String} (h : line.toList.all isLoner = true) (hline : '\n' ∉ line.toList) :
    HasLines (line ++ "\n").toList [line.toList] := by
  refine ⟨fun rest => ?_, by simpa using hline⟩
  have hend : (line ++ "\n").toList = line.toList ++ ['\n'] := String.toList_append
  have hloners : (line.toList ++ ['\n']).all isLoner = true := by
    rw [List.all_append, h]
    rfl
  rw [hend, calm_of_loners hloners, List.flatMap_singleton]

end HasLines

/-- Behind the translation phases, the part is whole lines, and none of them is a directive. -/
def NoDirectives (part : List Char) : Prop :=
  ∃ ls, HasLines part ls ∧ ∀ line ∈ ls, isDirective line = false

namespace NoDirectives

theorem nil : NoDirectives [] := ⟨[], ⟨fun _ => rfl, by simp⟩, by simp⟩

theorem append_text {s t : String} (hs : NoDirectives s.toList) (ht : NoDirectives t.toList) :
    NoDirectives (s ++ t).toList := by
  obtain ⟨ls, hls, hs⟩ := hs
  obtain ⟨ls', hls', ht⟩ := ht
  refine ⟨ls ++ ls', ?_, List.forall_mem_append.mpr ⟨hs, ht⟩⟩
  rw [String.toList_append]
  exact hls.append hls'

/-- A line without question marks and backslashes. -/
theorem one {line : String} (loners : line.toList.all isLoner = true) (ended : '\n' ∉ line.toList)
    (h : isDirective line.toList = false) : NoDirectives (line ++ "\n").toList :=
  ⟨[line.toList], .one loners ended, by simpa using h⟩

/-- A line that begins with an identifier. -/
theorem of_identifier {name s : String} (h : Text.isIdentifier name = true)
    (loners : s.toList.all isLoner = true) (ended : '\n' ∉ s.toList) :
    NoDirectives (name ++ s ++ "\n").toList := by
  have hword := fun c hc => isWordChar_of_mem_identifier h (c := c) hc
  obtain ⟨c, cs, hname, hc, -⟩ := exists_cons_of_isIdentifier h
  apply one
  · rw [String.toList_append, List.all_append, loners,
      List.all_eq_true.mpr fun c hc => isLoner_of_isWordChar (hword c hc)]
    rfl
  · rw [String.toList_append, List.mem_append]
    rintro (hmem | hmem)
    · exact absurd (hword _ hmem) (by decide)
    · exact ended hmem
  · have hblank := (not_isBlank_of_isWordChar (isWordChar_of_isWordStart hc)).2
    have hne : c ≠ '#' := by
      rintro rfl
      exact absurd hc (by decide)
    simp [isDirective, hname, hblank, hne]

theorem lines {l : List String} (h : ∀ line ∈ l, NoDirectives (line ++ "\n").toList) :
    NoDirectives (lines l).toList := by
  induction l with
  | nil => exact nil
  | cons line l ih =>
    obtain ⟨hline, hl⟩ := List.forall_mem_cons.mp h
    rw [lines_cons]
    exact hline.append_text (ih hl)

end NoDirectives

/-- The part defines these macros, whatever stands behind it. -/
def Defines (p : Position) (part : List Char) (ms : List Macro) (q : Position) : Prop :=
  ∀ rest, macrosFrom p (linesOf (phases (part ++ rest))) = ms ++ macrosFrom q (linesOf (phases rest))

namespace Defines

variable {p q r : Position} {a b : List Char} {ts : List Token} {ms ms' : List Macro} {ls : List (List Char)}

theorem append (ha : Defines p a ms q) (hb : Defines q b ms' r) : Defines p (a ++ b) (ms ++ ms') r := by
  intro rest
  rw [List.append_assoc, ha, hb, List.append_assoc]

theorem append_text {s t : String} (hs : Defines p s.toList ms q) (ht : Defines q t.toList ms' r) :
    Defines p (s ++ t).toList (ms ++ ms') r := by
  rw [String.toList_append]
  exact hs.append ht

/-- What whole lines define is told by the lines; where the lexer stands behind them, by their reading. -/
theorem of_lines (hlines : HasLines a ls) (hreads : Reads p a ts q) : Defines p a (macrosFrom p ls) q := by
  -- With nothing behind the part, the reading gives the position behind the lines.
  have hafter : after p ls = q := by
    have hread := hreads []
    rw [hlines.phases] at hread
    have hposition := congrArg Prod.snd hread
    simpa [phases, replaceTrigraphs, joinLines, run, after] using hposition
  intro rest
  rw [hlines.phases, linesOf_flatMap hlines.ended, macrosFrom_append, hafter]

/-- Lines without directives define nothing. -/
theorem of_noDirectives (h : NoDirectives a) (hreads : Reads p a ts q) : Defines p a [] q := by
  obtain ⟨ls, hls, hno⟩ := h
  exact macrosFrom_eq_nil (p := p) hno ▸ of_lines hls hreads

end Defines

/-! ## Tokens and macros together -/

/-- What whole lines give: these tokens, and these macros. -/
structure Contributes (text : String) (ts : List Token) (ms : List Macro) : Prop where
  reads : Reads .start text.toList ts .start
  defines : Defines .start text.toList ms .start

namespace Contributes

variable {s t : String} {l : List String} {ts us : List Token} {ms ms' : List Macro}

theorem append (hs : Contributes s ts ms) (ht : Contributes t us ms') :
    Contributes (s ++ t) (ts ++ us) (ms ++ ms') :=
  ⟨hs.reads.append_text ht.reads, hs.defines.append_text ht.defines⟩

theorem of_noDirectives (h : NoDirectives s.toList) (hreads : Reads .start s.toList ts .start) :
    Contributes s ts [] := ⟨hreads, .of_noDirectives h hreads⟩

/-- A fixed line. -/
theorem line {line : String} (calm : (line.toList.all isLoner && !line.toList.contains '\n') = true)
    (hts : run .start (line.toList ++ ['\n']) = (ts, .start)) (hms : macrosFrom .start [line.toList] = ms) :
    Contributes (line ++ "\n") ts ms := by
  rw [Bool.and_eq_true] at calm
  have hended : '\n' ∉ line.toList := by simpa using calm.2
  have hspelled : line = String.ofList line.toList := String.ofList_toList.symm
  have hreads := Reads.line hspelled calm.1 hts
  exact ⟨hreads, hms ▸ .of_lines (.one calm.1 hended) hreads⟩

/-- A fixed line, spelled out. -/
theorem literal {line : String} {cs : List Char} (hs : line = String.ofList cs)
    (calm : (cs.all isLoner && !cs.contains '\n') = true) (hts : run .start (cs ++ ['\n']) = (ts, .start))
    (hms : macrosFrom .start [cs] = ms) : Contributes (line ++ "\n") ts ms := by
  have hline : line.toList = cs := by rw [hs, String.toList_ofList]
  subst hline
  exact .line calm hts hms

theorem lines_nil : Contributes (lines []) [] [] := of_noDirectives .nil .nil

theorem lines_cons {line : String} (ts : List Token) (hline : Contributes (line ++ "\n") ts ms)
    (hl : Contributes (lines l) us ms') :
    Contributes (lines (line :: l)) (ts ++ us) (ms ++ ms') := by
  rw [C.lines_cons]
  exact hline.append hl

theorem lines_append {l m : List String} (hl : Contributes (lines l) ts ms) (hm : Contributes (lines m) us ms') :
    Contributes (lines (l ++ m)) (ts ++ us) (ms ++ ms') := by
  rw [C.lines_append]
  exact hl.append hm

theorem join {α : Type} {l : List α} {f : α → String} {g : α → List Token}
    (h : ∀ a ∈ l, Contributes (f a) (g a) []) : Contributes (String.join (l.map f)) (l.flatMap g) [] := by
  induction l with
  | nil => exact lines_nil
  | cons a l ih =>
    obtain ⟨ha, hl⟩ := List.forall_mem_cons.mp h
    rw [List.map_cons, String.join_cons, List.flatMap_cons]
    exact ha.append (ih hl)

end Contributes

/-! ## Constants -/

theorem run_of_reads {p q : Position} {a : List Char} {ts : List Token} (loners : a.all isLoner = true)
    (h : Reads p a ts q) : run p a = (ts, q) := by
  have h' := h []
  rw [calm_of_loners loners] at h'
  simpa [phases, replaceTrigraphs, joinLines, run] using h'

/-- A directive up to the number of a constant, spelled out. -/
structure OpensConstant (opening name : String) (cs : List Char) : Prop where
  spelled : opening = String.ofList ('#' :: cs)
  loners : ('#' :: cs).all isLoner = true
  ended : '\n' ∉ '#' :: cs
  directive : run .start ('#' :: cs) = ([], .between .directive)
  tokens : run (.between .plain) cs = ([.atom (.word "define"), .atom (.word name)], .between .plain)

namespace OpensConstant

variable {opening name : String} {cs : List Char}

/-- The directive gives no tokens. -/
theorem reads (h : OpensConstant opening name cs) (n : Nat) :
    Reads .start (opening ++ toString n ++ "\n").toList [] .start := by
  have hopening : Reads .start opening.toList [] (.between .directive) :=
    Reads.literal h.spelled h.loners h.directive
  have hend : Reads (.between .directive) "\n".toList [] .start := Reads.literal rfl (by decide) rfl
  rw [String.append_assoc]
  exact hopening.append_text (Reads.droppedNumeral (by decide) hend)

theorem toList_line (h : OpensConstant opening name cs) (n : Nat) :
    (opening ++ toString n).toList = '#' :: (cs ++ (toString n).toList) := by
  rw [String.toList_append, h.spelled, String.toList_ofList, List.cons_append]

theorem hasLines (h : OpensConstant opening name cs) (n : Nat) :
    HasLines (opening ++ toString n ++ "\n").toList ['#' :: (cs ++ (toString n).toList)] := by
  have hdigit : ∀ c ∈ (toString n).toList, Text.isWordChar c = true := fun c hc =>
    isWordChar_of_isDigit (isDigit_of_mem_toString hc)
  rw [← h.toList_line]
  apply HasLines.one
  · rw [h.toList_line, ← List.cons_append, List.all_append, h.loners, List.all_eq_true.mpr fun c hc =>
      isLoner_of_isWordChar (hdigit c hc)]
    rfl
  · rw [h.toList_line, ← List.cons_append, List.mem_append]
    rintro (hmem | hmem)
    · exact h.ended hmem
    · exact absurd (hdigit _ hmem) (by decide)

/-- Behind the `#`, the line is the name and the number. -/
theorem ofLine?_line (h : OpensConstant opening name cs) (n : Nat) :
    Macro.ofLine? ('#' :: (cs ++ (toString n).toList)) = some ⟨name, [.atom (.number (toString n))]⟩ := by
  have hloners : cs.all isLoner = true := (Bool.and_eq_true_iff.mp (List.all_cons.symm.trans h.loners)).2
  have hopening : Reads (.between .plain) (String.ofList cs).toList
      [.atom (.word "define"), .atom (.word name)] (.between .plain) := Reads.literal rfl hloners h.tokens
  have hend : Reads (.between .plain) "\n".toList [] .start := Reads.literal rfl (by decide) rfl
  have hread := hopening.append_text (Reads.numeral (Or.inr rfl) (n := n) (by decide) hend)
  have htext : (String.ofList cs ++ (toString n ++ "\n")).toList = cs ++ (toString n).toList ++ ['\n'] := by
    rw [String.toList_append, String.toList_append, String.toList_ofList, List.append_assoc]
    rfl
  rw [htext] at hread
  -- The phases leave the line alone, so that the reading is a run of the lexer.
  have hrun := run_of_reads ?_ hread
  · show Macro.ofTokens? (run (.between .plain) (cs ++ (toString n).toList ++ ['\n'])).1 = _
    rw [hrun]
    rfl
  · have hdigits : (toString n).toList.all isLoner = true := List.all_eq_true.mpr fun c hc =>
      isLoner_of_isWordChar (isWordChar_of_isDigit (isDigit_of_mem_toString hc))
    rw [List.all_append, List.all_append, hloners, hdigits]
    rfl

/-- The directive defines the constant. -/
theorem contributes (h : OpensConstant opening name cs) (n : Nat) :
    Contributes (opening ++ toString n ++ "\n") [] [⟨name, [.atom (.number (toString n))]⟩] := by
  have hline : macrosFrom .start ['#' :: (cs ++ (toString n).toList)]
      = [⟨name, [.atom (.number (toString n))]⟩] := by
    have hdirective : isDirective ('#' :: (cs ++ (toString n).toList)) = true := rfl
    rw [macrosFrom, hdirective, h.ofLine?_line]
    rfl
  exact ⟨h.reads n, hline ▸ .of_lines (h.hasLines n) (h.reads n)⟩

end OpensConstant

/-- The macros of a text that is read to the end of a line. -/
theorem macros_of_defines {text : String} {ms : List Macro} (h : Defines .start text.toList ms .start) :
    macros text = ms := by
  have h' := h []
  rw [List.append_nil] at h'
  rw [macros, h']
  simp [phases, replaceTrigraphs, joinLines, linesOf, macrosFrom, isDirective]

end ProfileBindings.C
