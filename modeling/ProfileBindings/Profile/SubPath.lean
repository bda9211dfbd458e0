import ProfileBindings.Decode.Record
import ProfileBindings.Sorted.Table
import ProfileBindings.Text.Words

/-!
# Sub-paths

A sub-path is one surface of a controller: a button, a stick, a motor. It lists its components and binds
them to enumerators of the runtime. A sub-path may be there on one side only; it then exists under the
subaction paths that contain the name of that side.

Main definitions: `SubPath`, `Binding`, `SubPath.appliesTo`, `SubPath.binding`, and the two directions
`SubPath.read` and `SubPath.write` between sub-paths and values.
-/

namespace ProfileBindings

/-- What a component is bound to: it has no entry, its entry is empty, or the entry names an enumerator. -/
inductive Binding where
  | undeclared
  | unbound
  | bound (enumerator : String)
deriving DecidableEq, Repr

/-- The enumerator of a binding. -/
def Binding.enumerator? : Binding → Option String
  | undeclared => none
  | unbound => none
  | bound name => some name

/-- Enumerators by component; a component without enumerator may have an empty entry. -/
abbrev BindingTable := Sorted.Table String (Option String)

/-- One surface of a controller. -/
structure SubPath where
  /-- The path below a subaction path. -/
  path : String
  /-- The kind of surface. -/
  kind : String
  localizedName : String
  /-- The side on which the surface is found, if it is not on both. -/
  side : Option String
  /-- The components in document order. -/
  components : List String
  bindings : BindingTable
deriving DecidableEq

namespace SubPath

/-- The sub-path exists under a subaction path. -/
def appliesTo (s : SubPath) (subaction : String) : Bool :=
  match s.side with
  | none => true
  | some side => Text.contains side subaction

/-- The surface is one that the runtime drives. -/
def isOutputKind (s : SubPath) : Bool := s.kind = "vibration"

/-- The binding of a component. -/
def binding (s : SubPath) (component : String) : Binding :=
  match s.bindings.get? component with
  | none => .undeclared
  | some none => .unbound
  | some (some name) => .bound name

open Decode in
/-- The fields of a sub-path. Only the side may be missing. -/
def form : RecordForm where
  label := "struct SubPath"
  fields := [
    ("type", fun v => fault? (text v)),
    ("localized_name", fun v => fault? (text v)),
    ("side", fun v => fault? (optionalText v)),
    ("components", fun v => fault? (texts v)),
    ("monado_bindings", fun v => fault? (textsByName v))]
  closed := false

open Decode in
/-- The sub-path that stands under a path. -/
def read (path : String) (v : Json) : Except Fault SubPath := do
  let source ← form.source v
  let kind ← source.require "type" text
  let localizedName ← source.require "localized_name" text
  let side ← source.optional "side" none optionalText
  let components ← source.require "components" texts
  let bindings ← source.require "monado_bindings" textsByName
  return { path, kind, localizedName, side, components, bindings := Sorted.Table.ofList bindings }

/-- A text, or `null` for none. -/
def writeOptional : Option String → Json
  | none => .null
  | some s => .str s

/-- The fields of a sub-path in declared order. The path is not among them, nor a missing side. -/
def write (s : SubPath) : Json :=
  let side : Json.Fields :=
    match s.side with
    | none => []
    | some side => [("side", .str side)]
  .obj ([("type", .str s.kind), ("localized_name", .str s.localizedName)] ++ side ++
    [("components", .arr (s.components.map .str)),
     ("monado_bindings", .obj (s.bindings.entries.map fun entry => (entry.1, writeOptional entry.2)))])

end SubPath

end ProfileBindings
