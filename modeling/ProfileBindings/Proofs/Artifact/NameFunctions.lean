import ProfileBindings.Artifact.NameFunctions
import ProfileBindings.Config.Basic
import ProfileBindings.Proofs.C.Evaluation

/-!
# What the name functions return

The text of the two functions of one direction is read as C: first its tokens, then its statements, then
what they do.

* `NameFunctions.stringFunction`, `NameFunctions.enumFunction` : the functions that are read;
* `NameFunctions.Enumerates` : all names, and the fallback, are enumerators of the direction.

Main statements:
* `NameFunctions.reads_print` : the text gives the tokens of both functions;
* `NameFunctions.call_stringFunction` : the name of an enumerator;
* `NameFunctions.call_enumFunction` : the enumerator of a name.
-/

namespace ProfileBindings.Artifact

/-- The enumeration of a direction. -/
def enumType : Direction → String
  | .input => "xrt_input_name"
  | .output => "xrt_output_name"

/-- The function from enumerators to names. -/
def stringName : Direction → String
  | .input => "xrt_input_name_string"
  | .output => "xrt_output_name_string"

/-- The function from names to enumerators. -/
def enumName : Direction → String
  | .input => "xrt_input_name_enum"
  | .output => "xrt_output_name_enum"

namespace NameFunctions

open C

/-- All names, and the fallback, are enumerators of the direction. -/
structure Enumerates (f : NameFunctions) : Prop where
  names : ∀ name ∈ f.names, Config.isEnumeratorOf f.direction name = true
  fallback : Config.isEnumeratorOf f.direction f.fallback = true

theorem isIdentifier_of_isEnumeratorOf {direction : Direction} {name : String}
    (h : Config.isEnumeratorOf direction name = true) : Text.isIdentifier name = true := by
  rw [Config.isEnumeratorOf, Bool.and_eq_true] at h
  exact h.1

/-! ## Trees -/

/-- A return of a literal or of an enumerator. -/
def returnTrees (value : Tree) : List Tree := [.word "return", value, .mark ";"]

/-- The literal of a text. -/
def literalTree (s : String) : Tree := .text (Literal.escape s).toList

/-- The name of a function and its parameter. -/
def signatureTrees (direction : Direction) (function : String) (parameterType : List Tree) : List Tree := [
  .word function, .group .round (parameterType ++ [.word direction.word])]

/-- The label of an enumerator. -/
def labelTrees (name : String) : List Tree := [.word "case", .word name, .mark ":"]

/-- The body of the function from enumerators to names. -/
def stringBody (f : NameFunctions) : List Tree := [
  .word "switch", .group .round [.word f.direction.word],
  .group .curly (f.names.flatMap (fun name => labelTrees name ++ returnTrees (literalTree name))
    ++ .word "default" :: .mark ":" :: returnTrees (literalTree "UNKNOWN"))]

/-- The condition under which a name is the one that is looked for. -/
def conditionTrees (direction : Direction) (name : String) : List Tree := [
  .word "strcmp", .group .round [literalTree name, .mark ",", .word direction.word],
  .mark "==", .number "0"]

/-- One comparison. -/
def comparisonTrees (direction : Direction) (name : String) : List Tree :=
  .word "if" :: .group .round (conditionTrees direction name) :: returnTrees (.word name)

/-- The body of the function from names to enumerators. -/
def enumBody (f : NameFunctions) : List Tree :=
  f.names.flatMap (comparisonTrees f.direction) ++ returnTrees (.word f.fallback)

/-- The definitions of both functions. -/
def trees (f : NameFunctions) : List Tree :=
  [.word "const", .word "char", .mark "*"]
    ++ signatureTrees f.direction (stringName f.direction) [.word "enum", .word (enumType f.direction)]
    ++ [.group .curly f.stringBody, .word "enum", .word (enumType f.direction)]
    ++ signatureTrees f.direction (enumName f.direction) [.word "const", .word "char", .mark "*"]
    ++ [.group .curly f.enumBody]

/-! ## Tokens -/

theorem isIdentifier_word (direction : Direction) : Text.isIdentifier direction.word = true := by
  cases direction <;> decide

theorem reads_case {name : String} (h : Text.isIdentifier name = true) :
    Reads .start ("\tcase " ++ name ++ ": return \"" ++ name ++ "\";" ++ "\n").toList
      (Tree.tokensOf (labelTrees name ++ returnTrees (literalTree name))) .start := by
  have hcase : Reads .start "\tcase ".toList [.atom (.word "case")] (.between .plain) :=
    Reads.literal rfl (by decide) rfl
  have hreturn : Reads (.between .plain) ": return ".toList
      [.atom (.mark ":"), .atom (.word "return")] (.between .plain) := Reads.literal rfl (by decide) rfl
  have hend : Reads (.between .plain) ";\n".toList [.atom (.mark ";")] .start :=
    Reads.literal rfl (by decide) rfl
  -- The name stands between quotes without being escaped, and an identifier need not be.
  have htext : "\tcase " ++ name ++ ": return \"" ++ name ++ "\";" ++ "\n"
      = "\tcase " ++ (name ++ ": return ") ++ Literal.quote name ++ ";\n" := by
    apply String.toList_inj.mp
    simp [Literal.quote, Literal.escape_of_isIdentifier h]
  rw [htext]
  have hname := hcase.append_text (Reads.identifier (Or.inr rfl) h rfl hreturn)
  exact (hname.append_text (Literal.reads_quote (Or.inr rfl) name)).append_text hend

theorem reads_comparison (direction : Direction) {name : String} (h : Text.isIdentifier name = true) :
    Reads .start ("\tif(strcmp(\"" ++ name ++ "\", " ++ direction.word ++ ") == 0) return " ++ name ++ ";"
      ++ "\n").toList (Tree.tokensOf (comparisonTrees direction name)) .start := by
  have hif : Reads .start "\tif(strcmp(".toList
      [.atom (.word "if"), .opening .round, .atom (.word "strcmp"), .opening .round]
      (.between .plain) := Reads.literal rfl (by decide) rfl
  have hcomma : Reads (.between .plain) ", ".toList [.atom (.mark ",")] (.between .plain) :=
    Reads.literal rfl (by decide) rfl
  have hreturn : Reads (.between .plain) ") == 0) return ".toList
      [.closing .round, .atom (.mark "=="), .atom (.number "0"), .closing .round,
        .atom (.word "return")] (.between .plain) := Reads.literal rfl (by decide) rfl
  have hend : Reads (.between .plain) ";\n".toList [.atom (.mark ";")] .start :=
    Reads.literal rfl (by decide) rfl
  have htext : "\tif(strcmp(\"" ++ name ++ "\", " ++ direction.word ++ ") == 0) return " ++ name ++ ";"
      ++ "\n" = "\tif(strcmp(" ++ Literal.quote name ++ ", " ++ (direction.word ++ ") == 0) return ")
        ++ (name ++ ";\n") := by
    apply String.toList_inj.mp
    simp [Literal.quote, Literal.escape_of_isIdentifier h]
  rw [htext]
  have hname := (hif.append_text (Literal.reads_quote (Or.inr rfl) name)).append_text hcomma
  have hword := Reads.identifier (Or.inr rfl) (isIdentifier_word direction) rfl hreturn
  exact (hname.append_text hword).append_text (Reads.identifier (Or.inr rfl) h rfl hend)

set_option maxRecDepth 2000 in
/-- The lines of the first function in front of its cases. -/
theorem readsLines_stringOpening (direction : Direction) :
    ReadsLines (stringSignature direction ++ ["\x7b", "\tswitch(" ++ direction.word ++ ")", "\t\x7b"])
      (Tree.tokensOf ([.word "const", .word "char", .mark "*"] ++ signatureTrees direction
        (stringName direction) [.word "enum", .word (enumType direction)])
        ++ .opening .curly :: Tree.tokensOf [.word "switch", .group .round [.word direction.word]]
        ++ [.opening .curly]) := by
  cases direction <;> exact Reads.of_loners (by decide) rfl

theorem readsLines_stringEnd :
    ReadsLines ["\tdefault: return \"UNKNOWN\";", "\t\x7d", "\x7d"]
      (Tree.tokensOf (.word "default" :: .mark ":" :: returnTrees (literalTree "UNKNOWN"))
        ++ [.closing .curly, .closing .curly]) := by
  have hdefault : ReadsLines ["\tdefault: return \"UNKNOWN\";"]
      (Tree.tokensOf (.word "default" :: .mark ":" :: returnTrees (literalTree "UNKNOWN"))) :=
    ReadsLines.literal rfl (by decide) rfl
  have hinner : ReadsLines ["\t\x7d"] [.closing .curly] := ReadsLines.literal rfl (by decide) rfl
  have houter : ReadsLines ["\x7d"] [.closing .curly] := ReadsLines.literal rfl (by decide) rfl
  exact hdefault.append (hinner.append houter)

set_option maxRecDepth 2000 in
/-- The lines of the second function in front of its comparisons. -/
theorem readsLines_enumOpening (direction : Direction) :
    ReadsLines (enumSignature direction ++ ["\x7b"])
      (Tree.tokensOf ([.word "enum", .word (enumType direction)] ++ signatureTrees direction
        (enumName direction) [.word "const", .word "char", .mark "*"]) ++ [.opening .curly]) := by
  cases direction <;> exact Reads.of_loners (by decide) rfl

theorem readsLines_enumEnd {name : String} (h : Text.isIdentifier name = true) :
    ReadsLines ["\treturn " ++ name ++ ";", "\x7d"]
      (Tree.tokensOf (returnTrees (.word name)) ++ [.closing .curly]) := by
  have hreturn : Reads .start "\treturn ".toList [.atom (.word "return")] (.between .plain) :=
    Reads.literal rfl (by decide) rfl
  have hend : Reads (.between .plain) ";\n\x7d\n".toList [.atom (.mark ";"), .closing .curly] .start :=
    Reads.literal rfl (by decide) rfl
  have htext : lines ["\treturn " ++ name ++ ";", "\x7d"] = "\treturn " ++ (name ++ ";\n\x7d\n") := by
    apply String.toList_inj.mp
    simp [lines]
  unfold ReadsLines
  rw [htext]
  exact hreturn.append_text (Reads.identifier (Or.inr rfl) h rfl hend)

theorem reads_print {f : NameFunctions} (hf : f.Enumerates) :
    Reads .start f.print.toList (Tree.tokensOf f.trees) .start := by
  have hidentifier := fun name hname => isIdentifier_of_isEnumeratorOf (hf.names name hname)
  have hcases : ReadsLines (f.names.map fun name => "\tcase " ++ name ++ ": return \"" ++ name ++ "\";")
      (f.names.flatMap fun name =>
        Tree.tokensOf (labelTrees name ++ returnTrees (literalTree name))) :=
    ReadsLines.map fun name hname => ReadsLines.one (reads_case (hidentifier name hname))
  have hcomparisons : ReadsLines (f.names.map fun name =>
      "\tif(strcmp(\"" ++ name ++ "\", " ++ f.direction.word ++ ") == 0) return " ++ name ++ ";")
      (f.names.flatMap fun name => Tree.tokensOf (comparisonTrees f.direction name)) :=
    ReadsLines.map fun name hname =>
      ReadsLines.one (reads_comparison f.direction (hidentifier name hname))
  have hstring := ((readsLines_stringOpening f.direction).append hcases).append readsLines_stringEnd
  have henum := ((readsLines_enumOpening f.direction).append hcomparisons).append
    (readsLines_enumEnd (isIdentifier_of_isEnumeratorOf hf.fallback))
  have hall := hstring.append henum
  rw [← Tree.tokensOf_flatMap, ← Tree.tokensOf_flatMap] at hall
  show ReadsLines (f.stringLines ++ f.enumLines) (Tree.tokensOf f.trees)
  simpa [stringLines, enumLines, trees, stringBody, enumBody, signatureTrees, Tree.tokensOf,
    Tree.tokens] using hall

/-! ## Statements -/

/-- The comparison with a name. -/
def condition (direction : Direction) (name : String) : Expr :=
  .sameText (.text (Text.utf8 name)) (.name direction.word)

/-- The cases of the first function with their labels. -/
def entries (f : NameFunctions) : List (Expr × Stmt) :=
  f.names.map fun name => (.name name, .ret (.text (Text.utf8 name)))

/-- The body of the first function. -/
def stringCode (f : NameFunctions) : Stmt :=
  .seq (.switch (.name f.direction.word) (.cases f.entries (.ret (.text (Text.utf8 "UNKNOWN"))))) .skip

/-- The comparisons of the second function. -/
def search (direction : Direction) (fallback : String) : List String → Stmt
  | [] => .seq (.ret (.name fallback)) .skip
  | name :: names =>
    .seq (.branch (condition direction name) (.ret (.name name)) .skip) (search direction fallback names)

/-- The body of the second function. -/
def enumCode (f : NameFunctions) : Stmt := search f.direction f.fallback f.names

theorem atom?_literalTree (s : String) : Expr.atom? (literalTree s) = some (.text (Text.utf8 s)) := by
  simp [literalTree, Expr.atom?, Literal.decode_escape]

theorem stands_returnText (s : String) :
    Stands (returnTrees (literalTree s)) (.ret (.text (Text.utf8 s))) := by
  have hread : Expr.read? [literalTree s] = some (.text (Text.utf8 s)) := atom?_literalTree s
  have hmark : ∀ t ∈ [literalTree s], t.isMark ";" = false := by simp [literalTree, Tree.isMark]
  exact Stands.ret hmark hread

theorem stands_returnName (name : String) : Stands (returnTrees (.word name)) (.ret (.name name)) := by
  have hmark : ∀ t ∈ [Tree.word name], t.isMark ";" = false := by simp [Tree.isMark]
  exact Stands.ret hmark rfl

theorem stands_label (name : String) : Stands (labelTrees name) (.label (some (.name name))) := by
  have hmark : ∀ t ∈ [Tree.word name], t.isMark ":" = false := by simp [Tree.isMark]
  exact Stands.label hmark rfl

theorem read?_condition (direction : Direction) (name : String) :
    Expr.read? (conditionTrees direction name) = some (condition direction name) := by
  have hparts : commaParts [literalTree name, .mark ",", .word direction.word]
      = [[literalTree name], [.word direction.word]] := rfl
  have hzero : constant? ['0'] = some 0 := rfl
  have hword : Expr.atom? (.word direction.word) = some (.name direction.word) := rfl
  have hnumber : Expr.atom? (.number "0") = some (.constant 0) := by simp [Expr.atom?, hzero]
  simp [conditionTrees, condition, Expr.sameText, Expr.read?, upToMark?, Tree.isMark, Expr.operand?,
    hparts, atom?_literalTree, hword, hnumber]

theorem standsAll_stringBody (f : NameFunctions) : StandsAll f.stringBody f.stringCode := by
  have hcases := standsAll_cases (l := f.names) (fun name _ => stands_label name)
    (fun name _ => stands_returnText name) (stands_returnText "UNKNOWN")
  have hword : Expr.read? [.word f.direction.word] = some (.name f.direction.word) := rfl
  exact StandsAll.one (Stands.switch hword (Stands.block hcases))

theorem standsAll_search (direction : Direction) (fallback : String) (names : List String) :
    StandsAll (names.flatMap (comparisonTrees direction) ++ returnTrees (.word fallback))
      (search direction fallback names) := by
  induction names with
  | nil => exact StandsAll.one (stands_returnName fallback)
  | cons name names ih =>
    rw [List.flatMap_cons, List.append_assoc]
    exact StandsAll.cons (Stands.branch (read?_condition direction name) (stands_returnName name)) ih

/-- The function from enumerators to names that the text defines. -/
def stringFunction (f : NameFunctions) : Function :=
  ⟨stringName f.direction, [f.direction.word], f.stringBody⟩

/-- The function from names to enumerators that the text defines. -/
def enumFunction (f : NameFunctions) : Function :=
  ⟨enumName f.direction, [f.direction.word], f.enumBody⟩

theorem code?_stringFunction (f : NameFunctions) : f.stringFunction.code? = some f.stringCode :=
  Function.code?_of_standsAll (standsAll_stringBody f)

theorem code?_enumFunction (f : NameFunctions) : f.enumFunction.code? = some f.enumCode :=
  Function.code?_of_standsAll (standsAll_search f.direction f.fallback f.names)

/-! ## Runs -/

/-- An enumerator is none of the other names of a function: they are in small letters. -/
theorem eval_enumerator {direction other : Direction} {name : String} (v : Value)
    (h : Config.isEnumeratorOf direction name = true) :
    (Expr.name name).eval [(other.word, v)] = some (.enumerator name) := by
  have hprefix : Text.hasPrefix direction.enumeratorStart name = true := by
    rw [Config.isEnumeratorOf, Bool.and_eq_true] at h
    exact h.2
  have hne : ∀ s, Text.hasPrefix direction.enumeratorStart s = false → name ≠ s := by
    rintro s hs rfl
    simp [hs] at hprefix
  have hword : (name == other.word) = false :=
    beq_eq_false_iff_ne.mpr (hne _ (by cases direction <;> cases other <;> decide))
  have htrue : name ≠ "true" := hne _ (by cases direction <;> decide)
  have hfalse : name ≠ "false" := hne _ (by cases direction <;> decide)
  simp [Expr.eval, List.lookup_cons, hword, htrue, hfalse]

theorem exec_return {env : Arguments} {e : Expr} {v : Value} (h : e.eval env = some v) :
    (Stmt.ret e).exec env .running = some (.returned v) := by
  simp [Stmt.exec, h]

theorem unlabelled_of_mem_entries {f : NameFunctions} {a : Expr × Stmt} (h : a ∈ f.entries) :
    Unlabelled a.2 := by
  obtain ⟨name, -, rfl⟩ := List.mem_map.mp h
  exact .ret _

theorem returns_of_mem_entries {f : NameFunctions} {a : Expr × Stmt} {env : Arguments}
    (h : a ∈ f.entries) : Returns env a.2 := by
  obtain ⟨name, -, rfl⟩ := List.mem_map.mp h
  exact ⟨_, exec_return rfl⟩

theorem find?_entries {names : List String} (env : Arguments) (x : String)
    (h : ∀ name ∈ names, (Expr.name name).eval env = some (.enumerator name)) :
    (names.map fun name => (Expr.name name, Stmt.ret (.text (Text.utf8 name)))).find?
        (fun a => a.1.eval env = some (.enumerator x))
      = if x ∈ names then some (.name x, .ret (.text (Text.utf8 x))) else none := by
  induction names with
  | nil => rfl
  | cons name names ih =>
    have hname := h name List.mem_cons_self
    have ih' := ih fun n hn => h n (List.mem_cons_of_mem name hn)
    -- The first label is the one looked for, or it is another enumerator and so another value.
    by_cases hx : name = x
    · subst hx
      simp [hname]
    · have hx' : ¬x = name := fun e => hx e.symm
      simp [hname, hx, hx', ih']

/-- The name of an enumerator. -/
theorem call_stringFunction {f : NameFunctions} (hf : f.Enumerates) (x : String) :
    f.stringFunction.call [.enumerator x]
      = some (.text (Text.utf8 (if x ∈ f.names then x else "UNKNOWN"))) := by
  have hparameter : (Expr.name f.direction.word).eval [(f.direction.word, .enumerator x)]
      = some (.enumerator x) := by simp [Expr.eval]
  have hunknown : Returns [(f.direction.word, .enumerator x)] (.ret (.text (Text.utf8 "UNKNOWN"))) :=
    ⟨_, exec_return rfl⟩
  have hswitch := exec_switch_cases hparameter
    (fun a ha => ⟨unlabelled_of_mem_entries (f := f) ha, returns_of_mem_entries ha⟩) (.ret _) hunknown
  have hfind := find?_entries [(f.direction.word, .enumerator x)] x
    fun name hname => eval_enumerator _ (hf.names name hname)
  refine Function.call_of_exec (code?_stringFunction f) rfl ?_
  show f.stringCode.exec [(f.direction.word, .enumerator x)] .running = _
  rw [stringCode, exec_seq, hswitch, entries, hfind]
  by_cases hx : x ∈ f.names <;> simp [hx, Stmt.exec, Expr.eval]

theorem exec_search {f : NameFunctions} {fallback : String} {names : List String} {s : String}
    (hs : '\x00' ∉ s.toList)
    (hnames : ∀ name ∈ names, Config.isEnumeratorOf f.direction name = true)
    (hfallback : Config.isEnumeratorOf f.direction fallback = true) :
    (search f.direction fallback names).exec [(f.direction.word, .text (Text.utf8 s))] .running
      = some (.returned (.enumerator (if s ∈ names then s else fallback))) := by
  induction names with
  | nil => simp [search, exec_return (eval_enumerator _ hfallback)]
  | cons name names ih =>
    have hname := hnames name List.mem_cons_self
    have ih' := ih fun n hn => hnames n (List.mem_cons_of_mem name hn)
    have hzero := zero_not_mem_identifier (isIdentifier_of_isEnumeratorOf hname)
    have htext : (Expr.text (Text.utf8 name)).eval [(f.direction.word, .text (Text.utf8 s))]
        = some (.text (Text.utf8 name)) := rfl
    have hparameter : (Expr.name f.direction.word).eval [(f.direction.word, .text (Text.utf8 s))]
        = some (.text (Text.utf8 s)) := by simp [Expr.eval]
    have hsame : Text.utf8 name = Text.utf8 s ↔ name = s := Text.utf8_inj
    rw [search, exec_seq, condition, exec_branch_sameText htext hparameter, cString_utf8 hzero,
      cString_utf8 hs]
    -- The first comparison decides, or it lets the search go on.
    by_cases heq : name = s
    · subst heq
      simp [exec_return (eval_enumerator _ hname)]
    · have heq' : ¬s = name := fun e => heq e.symm
      simp [hsame, heq, heq', ih']

/-- The enumerator of a name. -/
theorem call_enumFunction {f : NameFunctions} (hf : f.Enumerates) {s : String}
    (hs : '\x00' ∉ s.toList) :
    f.enumFunction.call [.text (Text.utf8 s)]
      = some (.enumerator (if s ∈ f.names then s else f.fallback)) :=
  Function.call_of_exec (code?_enumFunction f) rfl (exec_search hs hf.names hf.fallback)

/-- The labels of the one `switch` of the first function. -/
theorem caseLabels?_stringFunction (f : NameFunctions) :
    f.stringFunction.caseLabels? = some [f.names.map .name] := by
  have hunknown : Unlabelled (.ret (.text (Text.utf8 "UNKNOWN"))) := .ret _
  have hswitches := switches_switch_cases (.name f.direction.word)
    (fun a ha => unlabelled_of_mem_entries (f := f) ha) hunknown
  rw [Function.caseLabels?, code?_stringFunction, Option.map_some, stringCode, Stmt.switches, hswitches,
    entries, List.map_map]
  rfl

theorem unlabelled_search (direction : Direction) (fallback : String) (names : List String) :
    Unlabelled (search direction fallback names) := by
  induction names with
  | nil => exact .seq (.ret _) .skip
  | cons name names ih => exact .seq (.branch (.ret _) .skip) ih

/-- The second function has no `switch`. -/
theorem caseLabels?_enumFunction (f : NameFunctions) : f.enumFunction.caseLabels? = some [] := by
  rw [Function.caseLabels?, code?_enumFunction, Option.map_some, enumCode,
    (unlabelled_search _ _ _).switches_eq_nil]

/-- The first function uses the names as labels, and returns literals. -/
theorem expressions?_stringFunction (f : NameFunctions) : f.stringFunction.expressions?
    = some (f.names.map .name ++ (f.names ++ ["UNKNOWN"]).map fun s => .text (Text.utf8 s)) := by
  have hswitches : f.stringCode.switches = [f.names.map .name] := by
    have h := caseLabels?_stringFunction f
    rwa [Function.caseLabels?, code?_stringFunction, Option.map_some, Option.some.injEq] at h
  have hreturns : f.stringCode.returns = (f.names ++ ["UNKNOWN"]).map fun s => .text (Text.utf8 s) := by
    simp [stringCode, Stmt.returns, returns_cases, entries, List.flatMap_map, ← List.map_eq_flatMap]
  rw [Function.expressions?, code?_stringFunction, Option.map_some, hswitches, hreturns]
  simp

/-- The second function returns the names or the fallback. -/
theorem expressions?_enumFunction (f : NameFunctions) :
    f.enumFunction.expressions? = some ((f.names ++ [f.fallback]).map .name) := by
  have hreturns : ∀ names, (search f.direction f.fallback names).returns
      = (names ++ [f.fallback]).map .name := by
    intro names
    induction names with
    | nil => rfl
    | cons name names ih =>
      rw [List.cons_append, List.map_cons, ← ih]
      rfl
  rw [Function.expressions?, code?_enumFunction, Option.map_some, enumCode,
    (unlabelled_search _ _ _).switches_eq_nil, hreturns, List.flatten_nil, List.nil_append]

/-- The expressions that both functions use as they stand. -/
def expressions (f : NameFunctions) : List Expr :=
  f.names.map .name ++ (f.names ++ ["UNKNOWN"]).map (fun s => .text (Text.utf8 s))
    ++ (f.names ++ [f.fallback]).map .name

theorem name_mem_expressions_iff {f : NameFunctions} {name : String} :
    .name name ∈ f.expressions ↔ name ∈ f.names ∨ name = f.fallback := by
  simp only [expressions, List.mem_append, List.mem_map, Expr.name.injEq, exists_eq_right, reduceCtorEq,
    and_false, exists_const, or_false, List.mem_singleton]
  tauto

end NameFunctions

end ProfileBindings.Artifact
