import ProfileBindings.Yaml.Token

/-!
# YAML nodes

A document as a tree. An alias refers to an anchored node by number. Where the tokens of a document end
before the document does, the tree has a broken place in their stead, so that whatever stands in front of
that place can still be looked at.

Main definitions: `Node`, `Node.mark`, `Node.targets`, `Node.size`.
-/

namespace ProfileBindings.Yaml

/-- What a node has besides its content: its place, the number of its anchor, and its tag. -/
structure Head where
  mark : Mark
  anchor : Option Nat
  tag : Option Tag
deriving DecidableEq, Repr

/-- A node of a document. -/
inductive Node where
  | scalar (head : Head) (text : String) (style : Style)
  | sequence (head : Head) (items : List Node)
  | mapping (head : Head) (pairs : List (Node × Node))
  | alias (mark : Mark) (target : Nat)
  | broken
deriving Inhabited

namespace Node

/-- A plain scalar without text. -/
def empty (mark : Mark) : Node := .scalar ⟨mark, none, none⟩ "" .plain

/-- A node with the number of its anchor, if it has one. -/
def target (head : Head) (node : Node) : List (Nat × Node) :=
  match head.anchor with
  | none => []
  | some n => [(n, node)]

mutual

/-- The anchored nodes by number, in the order of the text. -/
def targets : Node → List (Nat × Node)
  | .scalar head text style => target head (.scalar head text style)
  | .sequence head items => target head (.sequence head items) ++ itemsTargets items
  | .mapping head pairs => target head (.mapping head pairs) ++ pairsTargets pairs
  | .alias _ _ => []
  | .broken => []

/-- The anchored nodes among items. -/
def itemsTargets : List Node → List (Nat × Node)
  | [] => []
  | node :: rest => targets node ++ itemsTargets rest

/-- The anchored nodes among pairs. -/
def pairsTargets : List (Node × Node) → List (Nat × Node)
  | [] => []
  | (key, value) :: rest => targets key ++ targets value ++ pairsTargets rest

end

mutual

/-- How many scalars, aliases, and starts and ends of collections a document has. The missing end of a
broken collection counts too. -/
def size : Node → Nat
  | .scalar _ _ _ => 1
  | .sequence _ items => 1 + itemsSize items
  | .mapping _ pairs => 1 + pairsSize pairs
  | .alias _ _ => 1
  | .broken => 0

/-- The size of items with the end behind them. -/
def itemsSize : List Node → Nat
  | [] => 1
  | node :: rest => size node + itemsSize rest

/-- The size of pairs with the end behind them. -/
def pairsSize : List (Node × Node) → Nat
  | [] => 1
  | (key, value) :: rest => size key + size value + pairsSize rest

end

end Node

end ProfileBindings.Yaml
