import ProfileBindings.Config.Record
import ProfileBindings.Yaml.Value

/-!
# Configuration files

A configuration file is a YAML mapping of some of the fields. Texts may be written in any way; an empty
value is an empty list, and an empty file sets nothing. A field may be set only once.

Main definitions: `Config.Draft`, `Config.ofYaml`.
-/

namespace ProfileBindings.Config

open Yaml (Node Path Mark Reading)
open Yaml.Source (blame refuse markOf stepTo)
open Decode (Seen Fault)

/-- The fields that a file sets. -/
structure Draft where
  headerInclude : Option String
  definesInclude : Option String
  verifyPrefix : Option String
  pathsPerTemplate : Option Nat
  extraInputs : Option (List String)
  inputFallback : Option String
  outputFallback : Option String
  spdxLicense : Option (Option String)

namespace Draft

/-- No fields. -/
def empty : Draft := ⟨none, none, none, none, none, none, none, none⟩

/-- The names of the fields that are set. -/
def isSet (d : Draft) (name : String) : Bool :=
  match name with
  | "header_include" => d.headerInclude.isSome
  | "defines_include" => d.definesInclude.isSome
  | "verify_prefix" => d.verifyPrefix.isSome
  | "paths_per_binding_template" => d.pathsPerTemplate.isSome
  | "extra_inputs" => d.extraInputs.isSome
  | "input_fallback" => d.inputFallback.isSome
  | "output_fallback" => d.outputFallback.isSome
  | "spdx_license" => d.spdxLicense.isSome
  | _ => false

/-- The configuration, standard values standing in for fields that are not set. -/
def complete (d : Draft) : Config where
  headerInclude := d.headerInclude.getD standard.headerInclude
  definesInclude := d.definesInclude.getD standard.definesInclude
  verifyPrefix := d.verifyPrefix.getD standard.verifyPrefix
  pathsPerTemplate := d.pathsPerTemplate.getD standard.pathsPerTemplate
  extraInputs := d.extraInputs.getD standard.extraInputs
  inputFallback := d.inputFallback.getD standard.inputFallback
  outputFallback := d.outputFallback.getD standard.outputFallback
  spdxLicense := d.spdxLicense.getD standard.spdxLicense

end Draft

/-- A scalar without text that is not quoted. -/
def isEmptyScalar : Node → Bool
  | .scalar _ "" .plain => true
  | _ => false

/-- A text. -/
def yamlText (source : Yaml.Source) (path : Path) (node : Node) : Reading String :=
  source.text "a string" path node

/-- A count: a plain scalar, or a literal block whose tag says that it is an integer. -/
def yamlCount (source : Yaml.Source) (path : Path) (node : Node) : Reading Nat := do
  let node ← source.resolve node
  let count := match node with
    | .scalar head text style =>
      if style = .plain || (style = .literal && head.tag = some (Yaml.coreTag "int")) then
        Yaml.unsigned? 64 text.toList
      else none
    | _ => none
  match count with
  | some n => return n
  | none => refuse "usize" path node

/-- A list of texts. -/
def yamlTexts (source : Yaml.Source) (path : Path) (node : Node) : Reading (List String) := do
  match ← source.resolve node with
  | .sequence _ items =>
    items.zipIdx.mapM fun item => yamlText source (path ++ [.item item.2]) item.1
  | node => if isEmptyScalar node then return [] else refuse "a sequence" path node

/-- A text, or a plain scalar that stands for nothing. A fault in what is tagged as nothing is blamed on
`whole`, the mapping that it stands in. -/
def yamlOptionalText (source : Yaml.Source) (whole : Mark) (path : Path) (node : Node) :
    Reading (Option String) := do
  match ← source.resolve node with
  | .scalar head text .plain =>
    match head.tag with
    | none => return if text.isEmpty || Yaml.isNullWord text then none else some text
    | some tag =>
      if tag = Yaml.coreTag "null" then
        if Yaml.isNullWord text then return none
        else blame (.invalidValue (.text text) "null") [] whole
      else return some text
  | node => return some (← yamlText source path node)

/-- Set one field. -/
def yamlField (source : Yaml.Source) (whole : Mark) (d : Draft) (name : String) (path : Path)
    (node : Node) : Reading Draft := do
  match name with
  | "header_include" => return { d with headerInclude := some (← yamlText source path node) }
  | "defines_include" => return { d with definesInclude := some (← yamlText source path node) }
  | "verify_prefix" => return { d with verifyPrefix := some (← yamlText source path node) }
  | "paths_per_binding_template" =>
    return { d with pathsPerTemplate := some (← yamlCount source path node) }
  | "extra_inputs" => return { d with extraInputs := some (← yamlTexts source path node) }
  | "input_fallback" => return { d with inputFallback := some (← yamlText source path node) }
  | "output_fallback" => return { d with outputFallback := some (← yamlText source path node) }
  | "spdx_license" =>
    return { d with spdxLicense := some (← yamlOptionalText source whole path node) }
  | _ => return d

/-- Set fields in the order of the file. -/
def yamlFields (source : Yaml.Source) (whole : Mark) : Draft → List (Node × Node) → Reading Draft
  | d, [] => return d
  | d, (key, node) :: rest => do
    let name ← source.text "field identifier" [] key
    if !fieldNames.contains name then
      -- the name of an alias is blamed on the node that it stands for
      blame (.unknownField name fieldNames) [] (markOf (← source.resolve key))
    if d.isSet name then blame (.duplicateField name) [] whole
    yamlFields source whole (← yamlField source whole d name [stepTo key] node) rest

/-- The fields that a document sets. -/
def yamlDraft (root : Node) : Reading Draft := do
  let source := Yaml.Source.ofNode root
  match root with
  | .mapping head pairs => yamlFields source head.mark .empty pairs
  | node => if isEmptyScalar node then return .empty else refuse label [] node

/-- The configuration of a file. -/
def ofYaml (text : String) : Except Yaml.Error Config :=
  let stream := Yaml.Stream.ofText text
  match stream.root with
  | none => .ok standard
  | some root => (Yaml.finish stream ((yamlDraft root).run 0)).map Draft.complete

end ProfileBindings.Config
