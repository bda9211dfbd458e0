import ProfileBindings.C.Literal
import ProfileBindings.Config.Basic

/-!
# The table of profiles

The table has an entry for each profile, and in it an entry for each component: where the component is
found, its canonical paths with a terminator behind them, and the enumerators that it is bound to. A
component without an entry in the document leaves its enumerators to the zero that C fills in. A profile
without components and a component without room for its paths have no entries.

Main definitions: `Artifact.Error` (why an artifact cannot be generated), `ComponentEntry`, `ProfileEntry`,
`ProfileEntry.ofProfile`, `ProfileTable.print`.
-/

namespace ProfileBindings.Artifact

/-- Why an artifact cannot be generated. -/
inductive Error where
  | invalidConfig (reason : Config.Fault)
  | noProfiles
  | noBindings (profile : ProfileName)
  | tooManyPaths (profile : ProfileName) (index : Nat) (component : Component) (capacity : Nat)

/-- An error in words. -/
def Error.message : Error → String
  | invalidConfig reason => "invalid generator config: " ++ reason.message
  | noProfiles => "bindings document declares no interaction profiles"
  | noBindings profile => "profile '" ++ profile.path ++ "' expands to no bindings"
  | tooManyPaths profile index component capacity =>
    "profile '" ++ profile.path ++ "', binding " ++ toString index ++ " (" ++ component.basePath
      ++ "): " ++ toString component.paths.length ++ " paths do not fit PATHS_PER_BINDING_TEMPLATE = "
      ++ toString capacity ++ " (one slot is reserved for the NULL terminator)"

/-! ## Entries -/

/-- An enumerator, or zero for none. -/
inductive Operand where
  | zero
  | enumerator (name : String)
deriving DecidableEq, Repr

/-- An operand as an expression. -/
def Operand.print : Operand → String
  | zero => "0"
  | enumerator name => name

/-- The enumerators of a component. -/
structure Operands where
  input : Operand
  output : Operand
deriving DecidableEq, Repr

/-- The entry of one component. -/
structure ComponentEntry where
  subaction : String
  steamvrPath : String
  localizedName : String
  paths : List String
  operands : Option Operands

/-- The entry of one profile. -/
structure ProfileEntry where
  device : String
  path : String
  localizedName : String
  steamvrInputProfilePath : String
  steamvrControllerType : String
  components : List ComponentEntry

namespace ComponentEntry

/-- The enumerators of a binding, on the side of its component. -/
def operandsOf (direction : Direction) : Binding → Option Operands
  | .undeclared => none
  | .unbound => some ⟨.zero, .zero⟩
  | .bound name =>
    match direction with
    | .input => some ⟨.enumerator name, .zero⟩
    | .output => some ⟨.zero, .enumerator name⟩

/-- The entry of a component. -/
def ofComponent (c : Component) : ComponentEntry where
  subaction := c.subaction
  steamvrPath := c.steamvrPath
  localizedName := c.localizedName
  paths := c.paths
  operands := operandsOf c.direction c.binding

/-- The lines for the enumerators. -/
def operandLines : Option Operands → List String
  | none => []
  | some operands => [
      "\t\t\t\t.input = " ++ operands.input.print ++ ",",
      "\t\t\t\t.output = " ++ operands.output.print ++ ","]

/-- The lines of an entry, numbered within its profile. -/
def lines (index : Nat) (e : ComponentEntry) : List String :=
  ["\t\t\t\x7b // binding_template " ++ toString index,
    "\t\t\t\t.subaction_path = " ++ C.Literal.quote e.subaction ++ ",",
    "\t\t\t\t.steamvr_path = " ++ C.Literal.quote e.steamvrPath ++ ",",
    "\t\t\t\t.localized_name = " ++ C.Literal.quote e.localizedName ++ ",",
    "\t\t\t\t.paths = \x7b // array of paths"]
  ++ e.paths.map (fun path => "\t\t\t\t\t" ++ C.Literal.quote path ++ ",")
  ++ ["\t\t\t\t\tNULL", "\t\t\t\t\x7d, // /array of paths"]
  ++ operandLines e.operands
  ++ ["\t\t\t\x7d, // /binding_template " ++ toString index]

end ComponentEntry

namespace ProfileEntry

/-- The entry of a profile. It needs a component, and room for the paths of each. -/
def ofProfile (config : Config) (p : Profile) : Except Error ProfileEntry :=
  if p.expand.isEmpty then .error (.noBindings p.name)
  else
    match p.expand.zipIdx.find? fun item => config.pathsPerTemplate ≤ item.1.paths.length with
    | some (component, index) =>
      .error (.tooManyPaths p.name index component config.pathsPerTemplate)
    | none => .ok {
        device := p.device
        path := p.name.path
        localizedName := p.title
        steamvrInputProfilePath := p.name.steamvrInputProfilePath
        steamvrControllerType := p.name.steamvrControllerType
        components := p.expand.map ComponentEntry.ofComponent }

/-- The lines of an entry. -/
def lines (e : ProfileEntry) : List String :=
  ["\t\x7b // profile_template",
    "\t\t.name = " ++ e.device ++ ",",
    "\t\t.path = " ++ C.Literal.quote e.path ++ ",",
    "\t\t.localized_name = " ++ C.Literal.quote e.localizedName ++ ",",
    "\t\t.steamvr_input_profile_path = \"" ++ e.steamvrInputProfilePath ++ "\",",
    "\t\t.steamvr_controller_type = \"" ++ e.steamvrControllerType ++ "\",",
    "\t\t.binding_count = " ++ toString e.components.length ++ ",",
    "\t\t.bindings = (struct binding_template[])\x7b // array of binding_template"]
  ++ e.components.zipIdx.flatMap (fun item => ComponentEntry.lines item.2 item.1)
  ++ ["\t\t\x7d, // /array of binding_template", "\t\x7d, // /profile_template"]

end ProfileEntry

namespace ProfileTable

/-- The definition of the table. -/
def print (entries : List ProfileEntry) : String :=
  "\n\n" ++ C.lines (
    ["struct profile_template profile_templates[" ++ toString entries.length
      ++ "] = \x7b // array of profile_template"]
    ++ entries.flatMap ProfileEntry.lines
    ++ ["\x7d; // /array of profile_template", ""])

end ProfileTable

end ProfileBindings.Artifact
