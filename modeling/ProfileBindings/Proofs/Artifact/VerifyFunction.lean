import ProfileBindings.Artifact.VerifyFunction
import ProfileBindings.Proofs.C.Evaluation
import ProfileBindings.Proofs.Profile.Buckets

/-!
# What a verify function accepts

The text of a verify function is read as C: first its tokens, then its statements, then what they do.

* `VerifyFunction.function` : the function that is read;
* `VerifyFunction.code` : its body as statements.

Main statements:
* `VerifyFunction.reads_print` : the text gives the tokens of the function;
* `VerifyFunction.code?_function` : the tokens give the statements;
* `VerifyFunction.call_ofProfile` : what the function of a profile returns.
-/

namespace ProfileBindings.Artifact.VerifyFunction

open C

/-! ## Trees -/

/-- What stands between the brackets behind the name. -/
def parameterTrees : List Tree := [
  .word "const", .word "char", .mark "*", .word "str", .mark ",", .word "size_t", .word "length"]

/-- The condition under which a path is accepted. -/
def conditionTrees (path : String) : List Tree := [
  .word "strcmp", .group .round [.word "str", .mark ",", .text (Literal.escape path).toList],
  .mark "==", .number "0"]

/-- One comparison, and the way to the next one. -/
def comparisonTrees (path : String) : List Tree := [
  .word "if", .group .round (conditionTrees path),
  .group .curly [.word "return", .word "true", .mark ";"], .word "else"]

/-- What stands behind the last comparison. -/
def refusalTrees : List Tree := [.group .curly [.word "return", .word "false", .mark ";"]]

/-- The label of a case. -/
def labelTrees (length : Nat) : List Tree := [.word "case", .number (toString length), .mark ":"]

/-- The comparisons of a case. -/
def chainTrees (paths : List String) : List Tree := paths.flatMap comparisonTrees ++ refusalTrees

/-- The body of the function. -/
def bodyTrees (cases : List (Nat × List String)) : List Tree := [
  .word "switch", .group .round [.word "length"],
  .group .curly (cases.flatMap (fun entry => labelTrees entry.1 ++ chainTrees entry.2)
    ++ [.word "default", .mark ":", .word "return", .word "false", .mark ";"])]

/-- The definition of the function. -/
def trees (f : VerifyFunction) : List Tree := [
  .word "bool", .word f.name, .group .round parameterTrees, .group .curly (bodyTrees f.cases)]

/-! ## Tokens -/

variable {l : Line}

theorem reads_comparison (hl : l.IsOpen) (path : String) :
    Reads (.between l) (printComparison path).toList (Tree.tokensOf (comparisonTrees path))
      (.between .plain) := by
  have hbefore : Reads (.between l) "if (strcmp(str, ".toList
      [.atom (.word "if"), .opening .round, .atom (.word "strcmp"), .opening .round,
        .atom (.word "str"), .atom (.mark ",")] (.between .plain) := by
    rcases hl with rfl | rfl <;> exact Reads.literal rfl (by decide) rfl
  have hafter : Reads (.between .plain) ") == 0) \x7b\n\t\t\treturn true;\n\t\t\x7d else ".toList
      [.closing .round, .atom (.mark "=="), .atom (.number "0"), .closing .round, .opening .curly,
        .atom (.word "return"), .atom (.word "true"), .atom (.mark ";"), .closing .curly,
        .atom (.word "else")] (.between .plain) := Reads.literal rfl (by decide) rfl
  have hquote := Literal.reads_quote (Or.inr rfl) path
  exact (hbefore.append_text hquote).append_text hafter

theorem reads_chain (hl : l.IsOpen) (paths : List String) :
    Reads (.between l)
      (String.join (paths.map printComparison) ++ "\x7b\n\t\t\treturn false;\n\t\t\x7d\n").toList
      (Tree.tokensOf (chainTrees paths)) .start := by
  induction paths generalizing l with
  | nil =>
    rw [List.map_nil, String.join_nil, String.empty_append]
    rcases hl with rfl | rfl <;> exact Reads.literal rfl (by decide) rfl
  | cons path paths ih =>
    rw [List.map_cons, String.join_cons, String.append_assoc, chainTrees, List.flatMap_cons,
      List.append_assoc, Tree.tokensOf_append]
    exact (reads_comparison hl path).append_text (ih (Or.inr rfl))

theorem reads_case (length : Nat) (paths : List String) :
    Reads .start (printCase length paths).toList
      (Tree.tokensOf (labelTrees length ++ chainTrees paths)) .start := by
  have hcase : Reads .start "\tcase ".toList [.atom (.word "case")] (.between .plain) :=
    Reads.literal rfl (by decide) rfl
  have hcolon : Reads (.between .plain) ":\n\t\t".toList [.atom (.mark ":")] .start :=
    Reads.literal rfl (by decide) rfl
  have hlabel := hcase.append_text (Reads.numeral (Or.inr rfl) (n := length) rfl hcolon)
  have h := hlabel.append_text (reads_chain (Or.inl rfl) paths)
  rw [Tree.tokensOf_append]
  simp only [printCase, String.append_assoc] at h ⊢
  exact h

/-- The function up to its first case. -/
theorem reads_opening {name : String} (h : Text.isIdentifier name = true) :
    Reads .start (signature name ++ "\n\x7b\n\tswitch (length) \x7b\n").toList
      (Tree.tokensOf [.word "bool", .word name, .group .round parameterTrees]
        ++ .opening .curly :: Tree.tokensOf [.word "switch", .group .round [.word "length"]]
        ++ [.opening .curly]) .start := by
  have hbool : Reads .start "\nbool\n".toList [.atom (.word "bool")] .start :=
    Reads.literal rfl (by decide) rfl
  have hparameters : Reads (.between .plain) "(const char *str, size_t length)".toList
      (Tree.tokensOf [.group .round parameterTrees]) (.between .plain) :=
    Reads.literal rfl (by decide) rfl
  have hswitch : Reads (.between .plain) "\n\x7b\n\tswitch (length) \x7b\n".toList
      (.opening .curly :: Tree.tokensOf [.word "switch", .group .round [.word "length"]]
        ++ [.opening .curly]) .start := Reads.literal rfl (by decide) rfl
  have hname := hbool.append_text (Reads.identifier (Or.inl rfl) h rfl hparameters)
  have hall := hname.append_text hswitch
  simp only [signature, String.append_assoc] at hall ⊢
  exact hall

theorem reads_print (f : VerifyFunction) (h : Text.isIdentifier f.name = true) :
    Reads .start f.print.toList (Tree.tokensOf f.trees) .start := by
  have hcases : Reads .start (String.join (f.cases.map fun entry => printCase entry.1 entry.2)).toList
      (f.cases.flatMap fun entry => Tree.tokensOf (labelTrees entry.1 ++ chainTrees entry.2)) .start :=
    Reads.join fun entry _ => reads_case entry.1 entry.2
  have hend : Reads .start "\tdefault:\n\t\treturn false;\n\t\x7d\n\x7d\n".toList
      [.atom (.word "default"), .atom (.mark ":"), .atom (.word "return"), .atom (.word "false"),
        .atom (.mark ";"), .closing .curly, .closing .curly] .start := Reads.literal rfl (by decide) rfl
  have hall := ((reads_opening h).append_text hcases).append_text hend
  rw [← Tree.tokensOf_flatMap] at hall
  unfold print
  simpa [trees, bodyTrees, Tree.tokensOf, Tree.tokens] using hall

/-! ## Statements -/

/-- The comparison with a path. -/
def condition (path : String) : Expr := .sameText (.name "str") (.text (Text.utf8 path))

/-- A return of a truth value. -/
def answer (word : String) : Stmt := .ret (.name word)

/-- The comparisons of a case. -/
def chain : List String → Stmt
  | [] => .seq (answer "false") .skip
  | path :: paths => .branch (condition path) (.seq (answer "true") .skip) (chain paths)

/-- The cases with their labels. -/
def entries (f : VerifyFunction) : List (Expr × Stmt) :=
  f.cases.map fun entry => (.constant entry.1, chain entry.2)

/-- The body of the function. -/
def code (f : VerifyFunction) : Stmt :=
  .seq (.switch (.name "length") (.cases f.entries (answer "false"))) .skip

theorem read?_condition (path : String) : Expr.read? (conditionTrees path) = some (condition path) := by
  have hparts : commaParts [.word "str", .mark ",", .text (Literal.escape path).toList]
      = [[.word "str"], [.text (Literal.escape path).toList]] := rfl
  have hzero : constant? ['0'] = some 0 := rfl
  simp [conditionTrees, condition, Expr.sameText, Expr.read?, upToMark?, Tree.isMark, Expr.operand?,
    Expr.atom?, hparts, hzero, Literal.decode_escape]

theorem stands_answer (word : String) :
    Stands [.word "return", .word word, .mark ";"] (answer word) := by
  have hmark : ∀ t ∈ [Tree.word word], t.isMark ";" = false := by simp [Tree.isMark]
  exact Stands.ret hmark rfl

theorem stands_chain (paths : List String) : Stands (chainTrees paths) (chain paths) := by
  induction paths with
  | nil => exact Stands.block (StandsAll.one (stands_answer "false"))
  | cons path paths ih =>
    have hyes := StandsAll.one (stands_answer "true")
    exact Stands.branchElse (read?_condition path) hyes ih

theorem stands_label (length : Nat) : Stands (labelTrees length) (.label (some (.constant length))) := by
  have hread : Expr.read? [.number (toString length)] = some (.constant length) := by
    simp only [Expr.read?, upToMark?, Tree.isMark, Expr.operand?, Expr.atom?, constant?_toString]
    rfl
  have hmark : ∀ t ∈ [Tree.number (toString length)], t.isMark ":" = false := by simp [Tree.isMark]
  exact Stands.label hmark hread

theorem standsAll_body (f : VerifyFunction) : StandsAll (bodyTrees f.cases) f.code := by
  have hcases := standsAll_cases (l := f.cases) (fun entry _ => stands_label entry.1)
    (fun entry _ => stands_chain entry.2) (stands_answer "false")
  have hlength : Expr.read? [.word "length"] = some (.name "length") := rfl
  exact StandsAll.one (Stands.switch hlength (Stands.block hcases))

/-- The function that the text defines. -/
def function (f : VerifyFunction) : Function := ⟨f.name, ["str", "length"], bodyTrees f.cases⟩

theorem code?_function (f : VerifyFunction) : f.function.code? = some f.code :=
  Function.code?_of_standsAll (standsAll_body f)

/-! ## Runs -/

/-- The arguments of a call. -/
def arguments (bytes : List UInt8) (length : Int) : Arguments :=
  [("str", .text bytes), ("length", .number length)]

variable {bytes : List UInt8} {length : Int}

theorem exec_answer_true :
    (answer "true").exec (arguments bytes length) .running = some (.returned (.ofBool true)) := rfl

theorem exec_answer_false :
    (answer "false").exec (arguments bytes length) .running = some (.returned (.ofBool false)) := rfl

/-- The comparisons of a case accept the texts that they compare with. -/
theorem exec_chain (paths : List String) :
    (chain paths).exec (arguments bytes length) .running
      = some (.returned (.ofBool (paths.any fun path => cString bytes = cString (Text.utf8 path)))) := by
  induction paths with
  | nil => simp [chain, exec_answer_false]
  | cons path paths ih =>
    have hstr : (Expr.name "str").eval (arguments bytes length) = some (.text bytes) := rfl
    have hpath : (Expr.text (Text.utf8 path)).eval (arguments bytes length)
        = some (.text (Text.utf8 path)) := rfl
    rw [chain, condition, exec_branch_sameText hstr hpath]
    by_cases h : cString bytes = cString (Text.utf8 path)
    · simp [h, exec_answer_true]
    · simp [h, ih]

theorem unlabelled_chain (paths : List String) : Unlabelled (chain paths) := by
  induction paths with
  | nil => exact .seq (.ret _) .skip
  | cons path paths ih => exact .branch (.seq (.ret _) .skip) ih

theorem unlabelled_of_mem_entries {f : VerifyFunction} {a : Expr × Stmt} (h : a ∈ f.entries) :
    Unlabelled a.2 := by
  obtain ⟨entry, -, rfl⟩ := List.mem_map.mp h
  exact unlabelled_chain entry.2

theorem returns_of_mem_entries {f : VerifyFunction} {a : Expr × Stmt} (h : a ∈ f.entries) :
    Returns (arguments bytes length) a.2 := by
  obtain ⟨entry, -, rfl⟩ := List.mem_map.mp h
  exact ⟨_, exec_chain entry.2⟩

theorem call_function (f : VerifyFunction) (bytes : List UInt8) (length : Nat) :
    f.function.call [.text bytes, .number length]
      = some (.ofBool (match Sorted.lookUp length f.cases with
        | none => false
        | some paths => paths.any fun path => cString bytes = cString (Text.utf8 path))) := by
  have hlength : (Expr.name "length").eval (arguments bytes length) = some (.number length) := rfl
  have hentries : ∀ a ∈ f.entries, Unlabelled a.2 ∧ Returns (arguments bytes length) a.2 :=
    fun a ha => ⟨unlabelled_of_mem_entries ha, returns_of_mem_entries ha⟩
  have hquiet : Unlabelled (answer "false") := .ret _
  have hswitch := exec_switch_cases hlength hentries hquiet ⟨_, exec_answer_false⟩
  -- Looking for the label of a length is looking the length up in the cases.
  have hfind : f.entries.find? (fun a => a.1.eval (arguments bytes length) = some (.number length))
      = (f.cases.find? fun entry => entry.1 = length).map
        fun entry => (Expr.constant entry.1, chain entry.2) := by
    have hlabel : ∀ n : Nat, (Expr.constant n).eval (arguments bytes length) = some (.number length)
        ↔ n = length := fun n => by
      simp only [Expr.eval, Option.some.injEq, Value.number.injEq, Int.natCast_inj]
    rw [entries, List.find?_map]
    simp only [Function.comp_def, hlabel]
  rw [hfind] at hswitch
  refine Function.call_of_exec (code?_function f) rfl ?_
  show f.code.exec (arguments bytes length) .running = _
  rw [code, exec_seq, hswitch, Sorted.lookUp_eq_find?]
  cases f.cases.find? fun entry => entry.1 = length with
  | none => simp [exec_answer_false]
  | some entry => simp [exec_chain]

/-- The labels of the one `switch`, in the order of the cases. -/
theorem caseLabels?_function (f : VerifyFunction) :
    f.function.caseLabels? = some [f.cases.map fun entry => .constant entry.1] := by
  have hquiet : Unlabelled (answer "false") := .ret _
  have hswitches := switches_switch_cases (.name "length")
    (fun a ha => unlabelled_of_mem_entries (f := f) ha) hquiet
  rw [Function.caseLabels?, code?_function, Option.map_some, code, Stmt.switches, hswitches, entries,
    List.map_map]
  rfl

theorem returns_chain {paths : List String} {e : Expr} (h : e ∈ (chain paths).returns) :
    e = .name "true" ∨ e = .name "false" := by
  induction paths with
  | nil =>
    have he : e = .name "false" := by simpa [chain, answer, Stmt.returns] using h
    exact Or.inr he
  | cons path paths ih =>
    rcases List.mem_append.mp h with hyes | hno
    · have he : e = .name "true" := by simpa [answer, Stmt.returns] using hyes
      exact Or.inl he
    · exact ih hno

/-- The expressions that the function uses as they stand. -/
def expressions (f : VerifyFunction) : List Expr :=
  f.cases.map (fun entry => .constant entry.1)
    ++ f.cases.flatMap (fun entry => (chain entry.2).returns) ++ [.name "false"]

theorem expressions?_function (f : VerifyFunction) : f.function.expressions? = some f.expressions := by
  have hswitches : f.code.switches = [f.cases.map fun entry => .constant entry.1] := by
    have h := caseLabels?_function f
    rwa [Function.caseLabels?, code?_function, Option.map_some, Option.some.injEq] at h
  have hreturns : f.code.returns
      = f.cases.flatMap (fun entry => (chain entry.2).returns) ++ [.name "false"] := by
    simp [code, answer, entries, Stmt.returns, returns_cases, List.flatMap_map]
  rw [Function.expressions?, code?_function, Option.map_some, hswitches, hreturns, expressions]
  simp

/-- The function uses numbers and truth values only. -/
theorem eq_of_mem_expressions {f : VerifyFunction} {name : String} (h : .name name ∈ f.expressions) :
    name = "true" ∨ name = "false" := by
  simp only [expressions, List.mem_append, List.mem_map, List.mem_flatMap, reduceCtorEq, and_false,
    exists_const, false_or, List.mem_singleton, Expr.name.injEq] at h
  rcases h with ⟨entry, -, hreturn⟩ | hfalse
  · simpa using returns_chain hreturn
  · exact Or.inr hfalse

/-! ## The function of a profile -/

/-- Two texts of one length are the same for `strcmp` only if they are the same, provided that one of them
is seen to its end. -/
theorem cString_utf8_eq_iff {s path : String} (hs : '\x00' ∉ s.toList)
    (hlength : path.utf8ByteSize = s.utf8ByteSize) :
    cString (Text.utf8 s) = cString (Text.utf8 path) ↔ s = path := by
  have hseen := cString_utf8 hs
  rw [hseen]
  constructor
  · intro h
    by_cases hzero : 0 ∈ Text.utf8 path
    · -- A path with a zero is seen only up to it, and then it is too short.
      have hshort := length_lt_of_zero_mem hzero
      rw [← h, Text.length_utf8, Text.length_utf8] at hshort
      omega
    · rw [cString_of_zero_not_mem hzero] at h
      exact Text.utf8_inj.mp h
  · rintro rfl
    exact hseen.symm

theorem call_ofProfile (config : Config) (p : Profile) {s : String} (hs : '\x00' ∉ s.toList) :
    (ofProfile config p).function.call [.text (Text.utf8 s), .number s.utf8ByteSize]
      = some (.ofBool ((Buckets.ofProfile p).accepts s)) := by
  rw [call_function]
  have hbucket : Sorted.lookUp s.utf8ByteSize (ofProfile config p).cases
      = (Buckets.ofProfile p).bucket? s.utf8ByteSize := rfl
  rw [hbucket, Buckets.accepts]
  cases hfound : (Buckets.ofProfile p).bucket? s.utf8ByteSize with
  | none => rfl
  | some paths =>
    have hlength := Buckets.utf8ByteSize_of_mem_ofProfile (Buckets.mem_toList.mpr hfound)
    -- All paths of the bucket are as long as the argument, so that none is taken for a shorter one.
    have hany : (paths.any fun path => cString (Text.utf8 s) = cString (Text.utf8 path))
        = paths.contains s := by
      rw [Bool.eq_iff_iff, List.any_eq_true, List.contains_iff_mem]
      constructor
      · rintro ⟨path, hpath, heq⟩
        have heq' := (cString_utf8_eq_iff hs (hlength path hpath)).mp (by simpa using heq)
        exact heq' ▸ hpath
      · intro hmem
        exact ⟨s, hmem, by simp⟩
    simp only [hany]

theorem nodup_labels_ofProfile (config : Config) (p : Profile) :
    ((ofProfile config p).cases.map fun entry => Expr.constant entry.1).Nodup := by
  have hconstant : ∀ m n, Expr.constant m = .constant n → m = n := fun m n h => Expr.constant.inj h
  have h := (Buckets.nodup_lengths (Buckets.ofProfile p)).map hconstant
  rwa [List.map_map] at h

end ProfileBindings.Artifact.VerifyFunction
