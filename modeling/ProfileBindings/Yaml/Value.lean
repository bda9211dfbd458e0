import ProfileBindings.Yaml.Error
import ProfileBindings.Yaml.Meaning
import ProfileBindings.Yaml.Stream

/-!
# Values of YAML texts

A document as a value: scalars stand for what they mean, keys are texts, and numbers that a value has no
place for become `null`. The document is looked at from the front; a fault in front of the place where the
text breaks off is reported, otherwise that the text is malformed.

Main definitions:
* `Source` : what aliases refer to;
* `Reading` : readers that count the aliases they follow;
* `Source.value` : the value of a node;
* `read` : the value of a text.
-/

namespace ProfileBindings.Yaml

open Decode (Seen Fault)

/-- What aliases of a document refer to, and how often they may be followed. -/
structure Source where
  targets : List (Nat × Node)
  limit : Nat

/-- The source of a document. Of two nodes with one number the later one counts. -/
def Source.ofNode (root : Node) : Source := ⟨root.targets.reverse, 100 * root.size⟩

/-- A reader that counts the aliases it follows. -/
abbrev Reading := StateT Nat (Except Error)

/-- How deep collections may be nested. -/
def depthLimit : Nat := 128

namespace Source

/-- A fault at a place. -/
def blame {α : Type} (reason : Fault) (path : Path) (mark : Mark) : Reading α :=
  throw (.fault reason path mark)

/-- The node that an alias stands for; any other node is itself. -/
def resolve (source : Source) : Node → Reading Node
  | .alias _ target => do
    let followed := (← get) + 1
    set followed
    if source.limit < followed then throw .tooManyAliases
    match source.targets.lookup target with
    | some node => return node
    | none => throw .malformed
  | node => return node

/-- The value of a scalar. -/
def scalarValue : Seen → Except Fault Json
  | .nothing => .ok .null
  | .boolean b => .ok (.bool b)
  | .integer n => .ok (.int n)
  | .float bits => .ok (if (Float.ofBits bits).isFinite then .float bits else .null)
  | .text s => .ok (.str s)
  | _ => .error .numberOutOfRange

/-- What a node is met as where it does not belong. -/
def met (path : Path) (node : Node) : Reading Seen :=
  match node with
  | .scalar head text style =>
    match meaning head.tag text style with
    | .ok found => return found
    | .error reason => blame reason path head.mark
  | .sequence _ _ => return .sequence
  | .mapping _ _ => return .map
  | _ => throw .malformed

/-- The place of a node. -/
def markOf : Node → Mark
  | .scalar head _ _ => head.mark
  | .sequence head _ => head.mark
  | .mapping head _ => head.mark
  | .alias mark _ => mark
  | .broken => .start

/-- A node that does not belong here. -/
def refuse {α : Type} (expected : String) (path : Path) (node : Node) : Reading α := do
  blame (.invalidType (← met path node) expected) path (markOf node)

/-- The text of a scalar, whatever it stands for. -/
def text (source : Source) (expected : String) (path : Path) (node : Node) : Reading String := do
  match ← source.resolve node with
  | .scalar _ text _ => return text
  | node => refuse expected path node

/-- The step to the value of a key. -/
def stepTo : Node → Step
  | .scalar _ text _ => .key text
  | _ => .unnamed

/-- The tag of a value has to be one that values have. -/
def checkTag (path : Path) (head : Head) : Reading Unit :=
  if head.tag.any namesKind then blame (.invalidType .tagged "any valid JSON value") path head.mark
  else return ()

/-- The members of a mapping, given the reader for its values. -/
def members (source : Source) (value : Path → Node → Reading Json) (path : Path) :
    List (Node × Node) → Json.Fields → Reading Json.Fields
  | [], seen => return seen
  | (key, node) :: rest, seen => do
    let name ← source.text (if seen.isEmpty then "a string key" else "a string") path key
    let v ← value (path ++ [stepTo key]) node
    members source value path rest (seen.insert name v)

/-- The value of a node with collections nested up to a depth. -/
def value (source : Source) : (depth : Nat) → Path → Node → Reading Json
  | depth, path, node => do
    match ← source.resolve node with
    | .scalar head text style =>
      checkTag path head
      match (meaning head.tag text style).bind scalarValue with
      | .ok v => return v
      | .error reason => blame reason path head.mark
    | .sequence head items =>
      checkTag path head
      match depth with
      | 0 => throw (.tooDeep head.mark)
      | depth + 1 =>
        let values ← items.zipIdx.mapM fun item =>
          source.value depth (path ++ [.item item.2]) item.1
        return .arr values
    | .mapping head pairs =>
      checkTag path head
      match depth with
      | 0 => throw (.tooDeep head.mark)
      | depth + 1 => return .obj (← source.members (source.value depth) path pairs [])
    | _ => throw .malformed
termination_by structural depth => depth

end Source

/-- The result of a reading, unless the stream does not end properly behind its document. -/
def finish {α : Type} (stream : Stream) (result : Except Error (α × Nat)) : Except Error α :=
  match result, stream.ending with
  | .error e, _ => .error e
  | .ok (v, _), .proper => .ok v
  | .ok _, .broken => .error .malformed
  | .ok _, .further => .error .severalDocuments

/-- The text is well formed: nothing in it is broken, and it holds at most one document. -/
def isWellFormed (text : String) : Bool := (Stream.ofText text).ending = .proper

/-- The value of a text. A text without a document is nothing. -/
def read (text : String) : Except Error Json :=
  let stream := Stream.ofText text
  match stream.root with
  | none => .ok .null
  | some root =>
    finish stream (((Source.ofNode root).value depthLimit [] root).run 0)

end ProfileBindings.Yaml
