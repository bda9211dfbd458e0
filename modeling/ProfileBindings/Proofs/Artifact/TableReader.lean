import ProfileBindings.Profile.Document
import ProfileBindings.Profile.Component
import ProfileBindings.Proofs.C.Evaluation
import ProfileBindings.Proofs.C.Initializer

/-!
# The table of profiles as C reads it

The rows of a table of profiles, and how they are read from the trees of a C text. A text is what its
literal stands for, byte by byte; a field that is not set reads as zero.

* `BindingRow`, `ProfileRow`, `Table` : what is read;
* `table?` : the table of a text, if the text defines exactly one;
* `BindingRow.ofComponent`, `ProfileRow.ofProfile` : what should be read.
-/

namespace ProfileBindings.Artifact

open C

/-- One entry for a component. -/
structure BindingRow where
  subactionPath : List UInt8
  steamvrPath : List UInt8
  localizedName : List UInt8
  /-- The pointers of the array, `none` being `NULL`. -/
  paths : List (Option (List UInt8))
  input : Expr
  output : Expr
deriving DecidableEq

/-- One entry for a profile. -/
structure ProfileRow where
  name : String
  path : List UInt8
  localizedName : List UInt8
  steamvrInputProfilePath : List UInt8
  steamvrControllerType : List UInt8
  bindingCount : Nat
  bindings : List BindingRow
deriving DecidableEq

/-- A table, with the size that it is declared with. -/
structure Table where
  size : Nat
  rows : List ProfileRow
deriving DecidableEq

/-! ## Reading -/

/-- An enumerator or a number; a field that is not set is zero. -/
def operand? (fields : List (String × List Tree)) (name : String) : Option Expr :=
  match valueOf? fields name with
  | none => some (.constant 0)
  | some value => Expr.read? value

/-- The contents of the braces that a value consists of. -/
def braced? : List Tree → Option (List Tree)
  | [.group .curly inside] => some inside
  | _ => none

/-- The contents of the braces of an array of structures that has no name. -/
def anonymousArray? (tag : String) : List Tree → Option (List Tree)
  | [.group .round [.word "struct", .word other, .group .square []], .group .curly inside] =>
    if other = tag then some inside else none
  | _ => none

/-- The pointers between the braces of a value. -/
def pointers? (value : List Tree) : Option (List (Option (List UInt8))) := do
  (elements (← braced? value)).mapM pointer?

/-- The entry for a component. -/
def BindingRow.read? (element : List Tree) : Option BindingRow := do
  let fields ← fields? (← braced? element)
  let subactionPath ← fieldOf? text? fields "subaction_path"
  let steamvrPath ← fieldOf? text? fields "steamvr_path"
  let localizedName ← fieldOf? text? fields "localized_name"
  let paths ← fieldOf? pointers? fields "paths"
  let input ← operand? fields "input"
  let output ← operand? fields "output"
  return { subactionPath, steamvrPath, localizedName, paths, input, output }

/-- The entries of an array of components. -/
def bindings? (value : List Tree) : Option (List BindingRow) := do
  (elements (← anonymousArray? "binding_template" value)).mapM BindingRow.read?

/-- The entry for a profile. -/
def ProfileRow.read? (element : List Tree) : Option ProfileRow := do
  let fields ← fields? (← braced? element)
  let name ← fieldOf? name? fields "name"
  let path ← fieldOf? text? fields "path"
  let localizedName ← fieldOf? text? fields "localized_name"
  let steamvrInputProfilePath ← fieldOf? text? fields "steamvr_input_profile_path"
  let steamvrControllerType ← fieldOf? text? fields "steamvr_controller_type"
  let bindingCount ← fieldOf? number? fields "binding_count"
  let bindings ← fieldOf? bindings? fields "bindings"
  return {
    name, path, localizedName, steamvrInputProfilePath, steamvrControllerType, bindingCount, bindings }

/-- The table that an array definition gives. -/
def Table.read? (definition : ArrayDefinition) : Option Table :=
  if definition.tag = "profile_template" ∧ definition.name = "profile_templates" then do
    let size ← number? definition.size
    let rows ← (elements definition.initializer).mapM ProfileRow.read?
    return { size, rows }
  else none

/-- The table of a text. The text has to define no other array of structures. -/
def table? (text : String) : Option Table :=
  match (trees? text).map definitionsIn with
  | some [definition] => Table.read? definition
  | _ => none

/-! ## What should be read -/

/-- The enumerator of a component on one side. -/
def BindingRow.operandOf (direction : Direction) (c : Component) : Expr :=
  match c.binding with
  | .bound name => if c.direction = direction then .name name else .constant 0
  | .unbound => .constant 0
  | .undeclared => .constant 0

/-- The row of a component. -/
def BindingRow.ofComponent (c : Component) : BindingRow where
  subactionPath := Text.utf8 c.subaction
  steamvrPath := Text.utf8 c.steamvrPath
  localizedName := Text.utf8 c.localizedName
  paths := c.paths.map (fun path => some (Text.utf8 path)) ++ [none]
  input := operandOf .input c
  output := operandOf .output c

/-- The row of a profile. -/
def ProfileRow.ofProfile (p : Profile) : ProfileRow where
  name := p.device
  path := Text.utf8 p.name.path
  localizedName := Text.utf8 p.title
  steamvrInputProfilePath := Text.utf8 p.name.steamvrInputProfilePath
  steamvrControllerType := Text.utf8 p.name.steamvrControllerType
  bindingCount := p.expand.length
  bindings := p.expand.map BindingRow.ofComponent

end ProfileBindings.Artifact
