import Mathlib.Data.List.TakeWhile
import ProfileBindings.Proofs.C.Statement

/-!
# What a function of C returns

A function is run on its arguments. A text is the bytes of an array behind a pointer, and what `strcmp` sees
of it ends at its first zero. A name that is no parameter is an enumerator, and distinct enumerators are
distinct values; `true` and `false` are numbers.

A `switch` looks for the label of its value, and for the default label if there is none. A label may stand
anywhere in the body, so looking for it walks through the body like running does, and skips whatever stands
in front of the label. From the label on, statements run one after the other, past further labels.

* `Expr.eval` : the value of an expression;
* `Stmt.exec` : what becomes of a statement, whether it runs or is searched for a label;
* `Function`, `functionsNamed` : the functions that a C text defines;
* `Function.call` : the value that a function returns.

Main statements: `exec_switch_cases`, the first label of a value decides where all cases return, and
`exec_branch_sameText`, comparing two texts.
-/

namespace ProfileBindings.C

/-! ## Values -/

inductive Value where
  | number (n : Int)
  | text (bytes : List UInt8)
  | enumerator (name : String)
deriving DecidableEq, Repr

/-- What `strcmp` sees of an array. -/
def cString (bytes : List UInt8) : List UInt8 := bytes.takeWhile (· != 0)

/-- Two arrays are compared byte by byte, up to the first zero of each. -/
def strcmp (a b : List UInt8) : Int :=
  if cString a = cString b then 0 else if cString a < cString b then -1 else 1

/-- Parameters with their values. -/
abbrev Arguments := List (String × Value)

/-- A truth value as a number. -/
def Value.ofBool (b : Bool) : Value := .number (if b then 1 else 0)

/-- The value of an expression, if it has one. -/
def Expr.eval (env : Arguments) : Expr → Option Value
  | constant n => some (.number n)
  | text bytes => some (.text bytes)
  | name x =>
    match env.lookup x with
    | some v => some v
    | none =>
      if x = "true" then some (.ofBool true)
      else if x = "false" then some (.ofBool false)
      else some (.enumerator x)
  | strcmp a b =>
    match a.eval env, b.eval env with
    | some (.text a), some (.text b) => some (.number (C.strcmp a b))
    | _, _ => none
  | equal a b =>
    match a.eval env, b.eval env with
    | some (.number a), some (.number b) => some (.ofBool (a = b))
    | _, _ => none

/-! ## Execution -/

/-- The label that a `switch` looks for. -/
inductive Target where
  | value (v : Value)
  | fallback
deriving DecidableEq, Repr

/-- What becomes of a statement. -/
inductive Outcome where
  | returned (v : Value)
  /-- The next statement runs. -/
  | running
  /-- The label has not been found yet. -/
  | seeking (target : Target)
deriving DecidableEq, Repr

/-- The label is the one looked for. -/
def Target.matches (env : Arguments) (target : Target) (label : Option Expr) : Bool :=
  match target, label with
  | .value v, some e => e.eval env = some v
  | .fallback, none => true
  | _, _ => false

/-- The label that a `switch` goes to. -/
def targetOf (env : Arguments) (v : Value) (body : Stmt) : Target :=
  if body.labels.any fun e => e.eval env = some v then .value v else .fallback

/-- What becomes of a statement that is entered running, or looking for a label. Nothing becomes of one
whose condition has no value. The labels of an inner `switch` are not found from outside. -/
def Stmt.exec (env : Arguments) : Stmt → Outcome → Option Outcome
  | _, .returned v => some (.returned v)
  | skip, o => some o
  | label _, .running => some .running
  | label l, .seeking target =>
    if target.matches env l then some .running else some (.seeking target)
  | ret e, .running => (e.eval env).map .returned
  | ret _, .seeking target => some (.seeking target)
  | branch c yes no, .running =>
    match c.eval env with
    | some (.number n) => if n ≠ 0 then yes.exec env .running else no.exec env .running
    | _ => none
  | branch _ yes no, .seeking target =>
    match yes.exec env (.seeking target) with
    | some (.seeking target) => no.exec env (.seeking target)
    | o => o
  | switch e body, .running => do
    let v ← e.eval env
    match ← body.exec env (.seeking (targetOf env v body)) with
    | .seeking _ => return .running
    | o => return o
  | switch _ _, .seeking target => some (.seeking target)
  | seq first rest, o => do rest.exec env (← first.exec env o)

/-! ## Functions -/

/-- The definition of a function. -/
structure Function where
  name : String
  parameters : List String
  body : List Tree

/-- The name of a parameter is its last word. -/
def parameterName? (ts : List Tree) : Option String :=
  match ts.getLast? with
  | some (.word name) => some name
  | _ => none

/-- The functions that are defined at the outermost level. What stands between them is passed over, tokens that
begin nothing in C included: a text is read all the same if the lines of its banner are not inside a comment. -/
def functionsIn : List Tree → List Function
  | [] => []
  | .word name :: .group .round parameters :: .group .curly body :: rest =>
    ⟨name, (commaParts parameters).filterMap parameterName?, body⟩ :: functionsIn rest
  | _ :: rest => functionsIn rest

/-- The trees of a text, if its brackets match. -/
def trees? (text : String) : Option (List Tree) := nest (tokens text)

/-- The definitions of a name in a text. -/
def functionsNamed (text name : String) : List Function :=
  match trees? text with
  | none => []
  | some ts => (functionsIn ts).filter (·.name = name)

namespace Function

/-- The body as one statement. It has no more statements than tokens. -/
def code? (f : Function) : Option Stmt :=
  Stmt.readAll? ((Tree.tokensOf f.body).length + 1) f.body

/-- The case labels of each `switch` in the function. -/
def caseLabels? (f : Function) : Option (List (List Expr)) := f.code?.map Stmt.switches

/-- The expressions that the function uses as they stand: the labels of its cases, and what it may
return. -/
def expressions? (f : Function) : Option (List Expr) :=
  f.code?.map fun code => code.switches.flatten ++ code.returns

/-- The value that the function returns. -/
def call (f : Function) (arguments : List Value) : Option Value := do
  let code ← f.code?
  if arguments.length ≠ f.parameters.length then none
  match ← code.exec (f.parameters.zip arguments) .running with
  | .returned v => some v
  | _ => none

theorem code?_of_standsAll {f : Function} {s : Stmt} (h : StandsAll f.body s) : f.code? = some s :=
  h.2 _ (Nat.lt_succ_self _)

theorem call_of_exec {f : Function} {s : Stmt} {arguments : List Value} {v : Value}
    (hcode : f.code? = some s) (hlength : arguments.length = f.parameters.length)
    (hexec : s.exec (f.parameters.zip arguments) .running = some (.returned v)) :
    f.call arguments = some v := by
  simp [call, hcode, hlength, hexec]

end Function

/-! ## Laws of execution -/

@[simp] theorem exec_returned (env : Arguments) (s : Stmt) (v : Value) :
    s.exec env (.returned v) = some (.returned v) := by
  cases s <;> rfl

@[simp] theorem exec_skip (env : Arguments) (o : Outcome) : Stmt.skip.exec env o = some o := by
  cases o <;> rfl

@[simp] theorem exec_seq (env : Arguments) (first rest : Stmt) (o : Outcome) :
    (Stmt.seq first rest).exec env o = (first.exec env o).bind (rest.exec env) := by
  cases o with
  | returned v => simp
  | running => rfl
  | seeking target => rfl

/-- A statement without labels and without an inner `switch`. -/
inductive Unlabelled : Stmt → Prop where
  | skip : Unlabelled .skip
  | ret (e : Expr) : Unlabelled (.ret e)
  | branch {c : Expr} {yes no : Stmt} : Unlabelled yes → Unlabelled no → Unlabelled (.branch c yes no)
  | seq {first rest : Stmt} : Unlabelled first → Unlabelled rest → Unlabelled (.seq first rest)

theorem Unlabelled.exec_seeking {env : Arguments} {s : Stmt} (h : Unlabelled s) (target : Target) :
    s.exec env (.seeking target) = some (.seeking target) := by
  induction h with
  | skip => rfl
  | ret e => rfl
  | branch _ _ ihyes ihno => simp only [Stmt.exec, ihyes, ihno]
  | seq _ _ ihfirst ihrest => simp only [exec_seq, ihfirst, Option.bind_some, ihrest]

theorem Unlabelled.labels_eq_nil {s : Stmt} (h : Unlabelled s) : s.labels = [] := by
  induction h with
  | skip => rfl
  | ret e => rfl
  | branch _ _ ihyes ihno => simp only [Stmt.labels, ihyes, ihno, List.append_nil]
  | seq _ _ ihfirst ihrest => simp only [Stmt.labels, ihfirst, ihrest, List.append_nil]

theorem Unlabelled.switches_eq_nil {s : Stmt} (h : Unlabelled s) : s.switches = [] := by
  induction h with
  | skip => rfl
  | ret e => rfl
  | branch _ _ ihyes ihno => simp only [Stmt.switches, ihyes, ihno, List.append_nil]
  | seq _ _ ihfirst ihrest => simp only [Stmt.switches, ihfirst, ihrest, List.append_nil]

/-! ## Switches

A body in which a label stands in front of each statement and the default comes last. Where every statement
returns, nothing falls through to the next label, and the first label of the value decides.
-/

/-- The body of such a `switch`. -/
def Stmt.cases (entries : List (Expr × Stmt)) (fallback : Stmt) : Stmt :=
  entries.foldr (fun entry rest => .seq (.label (some entry.1)) (.seq entry.2 rest))
    (.seq (.label none) (.seq fallback .skip))

/-- The statement returns. -/
def Returns (env : Arguments) (s : Stmt) : Prop := ∃ v, s.exec env .running = some (.returned v)

theorem standsAll_cases {α : Type} {l : List α} {label code : α → List Tree} {e : α → Expr}
    {s : α → Stmt} {us : List Tree} {fallback : Stmt}
    (hlabel : ∀ a ∈ l, Stands (label a) (.label (some (e a)))) (hcode : ∀ a ∈ l, Stands (code a) (s a))
    (hfallback : Stands us fallback) :
    StandsAll (l.flatMap (fun a => label a ++ code a) ++ (.word "default" :: .mark ":" :: us))
      (.cases (l.map fun a => (e a, s a)) fallback) := by
  induction l with
  | nil =>
    rw [List.flatMap_nil, List.nil_append]
    exact StandsAll.cons Stands.fallback (StandsAll.one hfallback)
  | cons a l ih =>
    have ih' := ih (fun b hb => hlabel b (List.mem_cons_of_mem a hb))
      (fun b hb => hcode b (List.mem_cons_of_mem a hb))
    have hfirst := hcode a List.mem_cons_self
    rw [List.flatMap_cons, List.append_assoc, List.append_assoc]
    exact StandsAll.cons (hlabel a List.mem_cons_self) (StandsAll.cons hfirst ih')

section Cases

variable {env : Arguments} {entries : List (Expr × Stmt)} {fallback : Stmt}

theorem labels_cases (hentries : ∀ entry ∈ entries, Unlabelled entry.2) (hfallback : Unlabelled fallback) :
    (Stmt.cases entries fallback).labels = entries.map Prod.fst := by
  induction entries with
  | nil => simp [Stmt.cases, Stmt.labels, hfallback.labels_eq_nil]
  | cons entry entries ih =>
    have hentry := (hentries entry List.mem_cons_self).labels_eq_nil
    have ih' := ih fun a ha => hentries a (List.mem_cons_of_mem entry ha)
    simp only [Stmt.cases, Stmt.labels, hentry, Option.toList_some, List.foldr_cons, List.nil_append,
      List.singleton_append, List.map_cons] at ih' ⊢
    rw [ih']

theorem switches_cases (hentries : ∀ entry ∈ entries, Unlabelled entry.2)
    (hfallback : Unlabelled fallback) : (Stmt.cases entries fallback).switches = [] := by
  induction entries with
  | nil => simp [Stmt.cases, Stmt.switches, hfallback.switches_eq_nil]
  | cons entry entries ih =>
    have hentry := (hentries entry List.mem_cons_self).switches_eq_nil
    have ih' := ih fun a ha => hentries a (List.mem_cons_of_mem entry ha)
    simp only [Stmt.cases, Stmt.switches, hentry, List.foldr_cons, List.nil_append] at ih' ⊢
    exact ih'

/-- The one `switch` of a function has the labels of its entries. -/
theorem switches_switch_cases (e : Expr) (hentries : ∀ entry ∈ entries, Unlabelled entry.2)
    (hfallback : Unlabelled fallback) :
    (Stmt.switch e (.cases entries fallback)).switches = [entries.map Prod.fst] := by
  rw [Stmt.switches, labels_cases hentries hfallback, switches_cases hentries hfallback]

/-- What may be returned stands behind the labels. -/
theorem returns_cases : (Stmt.cases entries fallback).returns
    = entries.flatMap (fun entry => entry.2.returns) ++ fallback.returns := by
  induction entries with
  | nil => simp [Stmt.cases, Stmt.returns]
  | cons entry entries ih =>
    rw [List.flatMap_cons, List.append_assoc, ← ih]
    rfl

/-- Looking for a label that is there. -/
theorem exec_cases_value {v : Value} {entry : Expr × Stmt}
    (hentries : ∀ a ∈ entries, Unlabelled a.2 ∧ Returns env a.2)
    (hfind : entries.find? (fun a => a.1.eval env = some v) = some entry) :
    (Stmt.cases entries fallback).exec env (.seeking (.value v)) = entry.2.exec env .running := by
  induction entries with
  | nil => simp at hfind
  | cons a entries ih =>
    obtain ⟨hquiet, w, hw⟩ := hentries a List.mem_cons_self
    by_cases ha : a.1.eval env = some v
    · -- Found: its statement returns, and nothing behind it runs.
      obtain rfl : a = entry := by simpa [ha] using hfind
      simp [Stmt.cases, Stmt.exec, Target.matches, ha, hw]
    · -- Not this one: the search goes through its statement without a trace.
      have hrest : entries.find? (fun a => a.1.eval env = some v) = some entry := by
        simpa [ha] using hfind
      have ih' := ih (fun b hb => hentries b (List.mem_cons_of_mem a hb)) hrest
      rw [← ih']
      simp [Stmt.cases, Stmt.exec, Target.matches, ha, hquiet.exec_seeking]

/-- Looking for the default label. -/
theorem exec_cases_fallback (hentries : ∀ a ∈ entries, Unlabelled a.2) (hfallback : Returns env fallback) :
    (Stmt.cases entries fallback).exec env (.seeking .fallback) = fallback.exec env .running := by
  induction entries with
  | nil =>
    obtain ⟨w, hw⟩ := hfallback
    simp [Stmt.cases, Stmt.exec, Target.matches, hw]
  | cons a entries ih =>
    have hquiet := hentries a List.mem_cons_self
    have ih' := ih fun b hb => hentries b (List.mem_cons_of_mem a hb)
    rw [← ih']
    simp [Stmt.cases, Stmt.exec, Target.matches, hquiet.exec_seeking]

/-- The first label of the value decides, and the default if there is none. -/
theorem exec_switch_cases {e : Expr} {v : Value} (he : e.eval env = some v)
    (hentries : ∀ a ∈ entries, Unlabelled a.2 ∧ Returns env a.2)
    (hquiet : Unlabelled fallback) (hfallback : Returns env fallback) :
    (Stmt.switch e (.cases entries fallback)).exec env .running
      = match entries.find? (fun a => a.1.eval env = some v) with
        | some a => a.2.exec env .running
        | none => fallback.exec env .running := by
  have hlabels : (Stmt.cases entries fallback).labels = entries.map Prod.fst :=
    labels_cases (fun a ha => (hentries a ha).1) hquiet
  cases hfind : entries.find? (fun a => a.1.eval env = some v) with
  | some a =>
    have ha : a ∈ entries := List.mem_of_find?_eq_some hfind
    -- The search is for the value, since the entry that is found has its label.
    have htarget : targetOf env v (.cases entries fallback) = .value v := by
      rw [targetOf, hlabels, if_pos]
      rw [List.any_eq_true]
      have hlabel : decide (a.1.eval env = some v) = true := by
        simpa using List.find?_some hfind
      exact ⟨a.1, List.mem_map_of_mem ha, hlabel⟩
    obtain ⟨-, w, hw⟩ := hentries a ha
    simp [Stmt.exec, he, htarget, exec_cases_value hentries hfind, hw]
  | none =>
    -- A label of the value would be that of an entry, which would have been found.
    have htarget : targetOf env v (.cases entries fallback) = .fallback := by
      rw [targetOf, hlabels, if_neg]
      rw [List.any_eq_true]
      rintro ⟨label, hmem, hlabel⟩
      obtain ⟨a, ha, rfl⟩ := List.mem_map.mp hmem
      exact List.find?_eq_none.mp hfind a ha hlabel
    obtain ⟨w, hw⟩ := hfallback
    simp [Stmt.exec, he, htarget, hw,
      exec_cases_fallback (fun a ha => (hentries a ha).1) ⟨w, hw⟩]

end Cases

/-! ## Texts under `strcmp` -/

theorem strcmp_eq_zero {a b : List UInt8} : strcmp a b = 0 ↔ cString a = cString b := by
  unfold strcmp
  constructor
  · intro h
    by_contra hne
    rw [if_neg hne] at h
    split at h <;> contradiction
  · intro h
    rw [if_pos h]

theorem cString_of_zero_not_mem {bytes : List UInt8} (h : 0 ∉ bytes) : cString bytes = bytes := by
  unfold cString
  rw [List.takeWhile_eq_self_iff]
  intro b hb
  have hne : b ≠ 0 := fun e => h (e ▸ hb)
  simpa using hne

theorem cString_utf8 {s : String} (hs : '\x00' ∉ s.toList) : cString (Text.utf8 s) = Text.utf8 s :=
  cString_of_zero_not_mem fun h => hs (Text.zero_mem_utf8.mp h)

theorem zero_not_mem_identifier {name : String} (h : Text.isIdentifier name = true) :
    '\x00' ∉ name.toList := by
  intro hmem
  have hword := isWordChar_of_mem_identifier h hmem
  exact absurd hword (by decide)

/-- Of an array with a zero in it, `strcmp` does not see everything. -/
theorem length_lt_of_zero_mem {bytes : List UInt8} (h : 0 ∈ bytes) :
    (cString bytes).length < bytes.length := by
  have hle : (cString bytes).length ≤ bytes.length := (List.takeWhile_prefix _).length_le
  -- With the length of the whole array it would be the whole array, zero and all.
  refine Nat.lt_of_le_of_ne hle fun heq => ?_
  have hall : cString bytes = bytes := (List.takeWhile_prefix _).eq_of_length heq
  rw [cString, List.takeWhile_eq_self_iff] at hall
  simpa using hall 0 h

/-- The comparison that all generated functions make. -/
def Expr.sameText (a b : Expr) : Expr := .equal (.strcmp a b) (.constant 0)

theorem exec_branch_sameText {env : Arguments} {a b : Expr} {x y : List UInt8}
    (ha : a.eval env = some (.text x)) (hb : b.eval env = some (.text y)) (yes no : Stmt) :
    (Stmt.branch (.sameText a b) yes no).exec env .running
      = if cString x = cString y then yes.exec env .running else no.exec env .running := by
  have heval : (Expr.sameText a b).eval env = some (.ofBool (cString x = cString y)) := by
    simp [Expr.sameText, Expr.eval, ha, hb, strcmp_eq_zero]
  by_cases h : cString x = cString y <;> simp [Stmt.exec, heval, h, Value.ofBool]

end ProfileBindings.C
