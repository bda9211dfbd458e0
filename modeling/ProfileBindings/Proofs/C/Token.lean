import Mathlib.Data.List.Basic

/-!
# Tokens and token trees of C

A C text is a sequence of tokens, some of which are brackets. Where the brackets match, the sequence is the
same as a list of trees: a leaf is a token, a group is what stands between a bracket and its partner. All
further reading works on trees, so that nothing has to look for a closing bracket again.

* `Atom`, `Token` : tokens without and with brackets;
* `Tree`, `Tree.tokens` : trees, and the tokens they stand for;
* `nest` : the trees of a token sequence.

Main statement: `nest_tokensOf`, nesting finds the trees that the tokens came from.
-/

namespace ProfileBindings.C

/-- The three kinds of brackets. -/
inductive Bracket where
  | round
  | square
  | curly
deriving DecidableEq, Repr

/-- The bracket that a character opens. -/
def Bracket.opened? : Char → Option Bracket
  | '(' => some round
  | '[' => some square
  | '\x7b' => some curly
  | _ => none

/-- The bracket that a character closes. -/
def Bracket.closed? : Char → Option Bracket
  | ')' => some round
  | ']' => some square
  | '\x7d' => some curly
  | _ => none

/-- Tokens other than brackets. A literal is kept as it is spelled between its quotes. -/
inductive Atom where
  /-- An identifier or a keyword. -/
  | word (spelling : String)
  | number (spelling : String)
  /-- A punctuator. -/
  | mark (spelling : String)
  | text (spelling : List Char)
  | character (spelling : List Char)
  | headerName (spelling : List Char)
  /-- A character that begins no token. -/
  | stray (c : Char)
deriving DecidableEq, Repr

/-- The tokens of a C text. -/
inductive Token where
  | opening (b : Bracket)
  | closing (b : Bracket)
  | atom (a : Atom)
deriving DecidableEq, Repr

/-- A token that is no bracket, or the contents of a pair of brackets. -/
inductive Tree where
  | leaf (a : Atom)
  | group (b : Bracket) (inside : List Tree)

namespace Tree

/-- A word as a tree. -/
@[match_pattern] abbrev word (spelling : String) : Tree := .leaf (.word spelling)

/-- A number as a tree. -/
@[match_pattern] abbrev number (spelling : String) : Tree := .leaf (.number spelling)

/-- A punctuator as a tree. -/
@[match_pattern] abbrev mark (spelling : String) : Tree := .leaf (.mark spelling)

/-- A string literal as a tree. -/
@[match_pattern] abbrev text (spelling : List Char) : Tree := .leaf (.text spelling)

mutual

/-- The tokens of a tree. -/
def tokens : Tree → List Token
  | leaf a => [.atom a]
  | group b inside => .opening b :: tokensOf inside ++ [.closing b]

/-- The tokens of trees in a row. -/
def tokensOf : List Tree → List Token
  | [] => []
  | t :: ts => tokens t ++ tokensOf ts

end

@[simp] theorem tokensOf_append (ts us : List Tree) :
    tokensOf (ts ++ us) = tokensOf ts ++ tokensOf us := by
  induction ts with
  | nil => rfl
  | cons t ts ih => simp only [List.cons_append, tokensOf, ih, List.append_assoc]

theorem tokensOf_flatMap {α : Type} (l : List α) (f : α → List Tree) :
    tokensOf (l.flatMap f) = l.flatMap fun a => tokensOf (f a) := by
  induction l with
  | nil => rfl
  | cons a l ih => rw [List.flatMap_cons, tokensOf_append, ih, List.flatMap_cons]

theorem tokensOf_leaves (atoms : List Atom) : tokensOf (atoms.map .leaf) = atoms.map .atom := by
  induction atoms with
  | nil => rfl
  | cons a atoms ih =>
    rw [List.map_cons, List.map_cons, ← ih]
    rfl

theorem length_tokensOf_leaf (a : Atom) (ts : List Tree) :
    (tokensOf (leaf a :: ts)).length = (tokensOf ts).length + 1 := rfl

theorem length_tokensOf_group (b : Bracket) (inside ts : List Tree) :
    (tokensOf (group b inside :: ts)).length
      = (tokensOf inside).length + (tokensOf ts).length + 2 := by
  simp only [tokensOf, tokens, List.length_append, List.length_cons, List.length_nil]
  omega

end Tree

/-! ## Nesting -/

/-- The groups that are open, innermost first, each with its bracket and the trees in front of it. -/
abbrev Openings := List (Bracket × List Tree)

/-- Nest the tokens behind some that are nested already: `done` are the trees of the innermost open group. -/
def nestFrom : Openings → List Tree → List Token → Option (List Tree)
  | [], done, [] => some done
  | _ :: _, _, [] => none
  | outer, done, .atom a :: rest => nestFrom outer (done ++ [.leaf a]) rest
  | outer, done, .opening b :: rest => nestFrom ((b, done) :: outer) [] rest
  | [], _, .closing _ :: _ => none
  | (b, before) :: outer, done, .closing b' :: rest =>
    if b = b' then nestFrom outer (before ++ [.group b done]) rest else none

/-- The trees of a token sequence, if its brackets match. -/
def nest (tokens : List Token) : Option (List Tree) := nestFrom [] [] tokens

mutual

theorem nestFrom_tokens (t : Tree) (outer : Openings) (done : List Tree) (rest : List Token) :
    nestFrom outer done (t.tokens ++ rest) = nestFrom outer (done ++ [t]) rest := by
  cases t with
  | leaf a => simp only [Tree.tokens, List.cons_append, List.nil_append, nestFrom]
  | group b inside =>
    -- The group is opened, filled, and closed by its own bracket.
    simp only [Tree.tokens, List.cons_append, List.append_assoc, List.nil_append, nestFrom]
    rw [nestFrom_tokensOf inside]
    simp only [List.nil_append, nestFrom, if_true]

theorem nestFrom_tokensOf (ts : List Tree) (outer : Openings) (done : List Tree)
    (rest : List Token) :
    nestFrom outer done (Tree.tokensOf ts ++ rest) = nestFrom outer (done ++ ts) rest := by
  cases ts with
  | nil => simp only [Tree.tokensOf, List.nil_append, List.append_nil]
  | cons t ts =>
    simp only [Tree.tokensOf, List.append_assoc]
    rw [nestFrom_tokens t, nestFrom_tokensOf ts, List.append_assoc, List.singleton_append]

end

theorem nest_tokensOf (ts : List Tree) : nest (Tree.tokensOf ts) = some ts := by
  have h := nestFrom_tokensOf ts [] [] []
  simpa [nest, nestFrom] using h

end ProfileBindings.C
