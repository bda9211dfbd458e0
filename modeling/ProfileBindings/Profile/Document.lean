import ProfileBindings.Enumerator.Direction
import ProfileBindings.Json.Reader
import ProfileBindings.Profile.Name
import ProfileBindings.Profile.SubPath

/-!
# Bindings documents

A document lists interaction profiles under their names; a profile lists its sub-paths and the subaction
paths under which they appear. Both lists keep the order of the text.

Main definitions:
* `Profile`, `Document` : the model;
* `Document.Error` : why a value is no document;
* `Document.read` : the document of a value; the first fault in document order is reported;
* `Document.find?` : a profile by its path.
-/

namespace ProfileBindings

/-- One controller. -/
structure Profile where
  name : ProfileName
  title : String
  /-- The tag of the kind of device. -/
  deviceType : String
  /-- The enumerator of the device. -/
  device : String
  /-- The paths under which the sub-paths appear. -/
  subactionPaths : List String
  /-- The sub-paths in document order. -/
  subPaths : List SubPath

/-- The profiles in document order. -/
structure Document where
  profiles : List Profile

namespace Document

/-- Why a value or a text is no document. -/
inductive Error where
  | missingProfiles
  | invalidName (name : String) (reason : ProfileName.Fault)
  | invalidProfile (profile : String) (reason : Decode.Fault)
  | invalidSubPath (profile subPath : String) (reason : Decode.Fault)
  | notJson (reason : Json.ReadError)
deriving DecidableEq

/-- An error in words. -/
def Error.message : Error → String
  | missingProfiles => "document must be an object with a \x60profiles\x60 object"
  | invalidName name reason =>
    "invalid interaction profile name '" ++ name ++ "': " ++ reason.message
  | invalidProfile profile reason => "profile '" ++ profile ++ "': " ++ reason.message .json
  | invalidSubPath profile subPath reason =>
    "profile '" ++ profile ++ "', sub-path '" ++ subPath ++ "': " ++ reason.message .json
  | notJson reason => "json error: " ++ reason.message

end Document

namespace Profile

open Decode in
/-- The fields of a profile. What stands under the sub-paths is read later. -/
def form : RecordForm where
  label := "struct RawProfile"
  fields := [
    ("title", fun v => fault? (text v)),
    ("type", fun v => fault? (text v)),
    ("monado_device", fun v => fault? (text v)),
    ("subaction_paths", fun v => fault? (texts v)),
    ("subpaths", fun v => fault? (members v))]
  closed := false

/-- The fields of a profile, its sub-paths still being values. -/
structure Entry where
  title : String
  deviceType : String
  device : String
  subactionPaths : List String
  subPaths : Json.Fields

open Decode in
/-- The fields that a value gives. -/
def Entry.read (v : Json) : Except Fault Entry := do
  let source ← form.source v
  let title ← source.require "title" text
  let deviceType ← source.require "type" text
  let device ← source.require "monado_device" text
  let subactionPaths ← source.require "subaction_paths" texts
  let subPaths ← source.require "subpaths" members
  return { title, deviceType, device, subactionPaths, subPaths }

/-- The profile that stands under a path: first the path is read, then the fields, then the sub-paths. -/
def read (path : String) (v : Json) : Except Document.Error Profile := do
  let name ← (ProfileName.parse path).mapError (.invalidName path)
  let entry ← (Entry.read v).mapError (.invalidProfile path)
  let subPaths ← entry.subPaths.mapM fun field =>
    (SubPath.read field.1 field.2).mapError (.invalidSubPath path field.1)
  return {
    name, subPaths
    title := entry.title
    deviceType := entry.deviceType
    device := entry.device
    subactionPaths := entry.subactionPaths }

/-- A sub-path by its path. -/
def subPath? (p : Profile) (path : String) : Option SubPath := p.subPaths.find? (·.path == path)

end Profile

namespace Document

/-- The document of a value. -/
def read (v : Json) : Except Error Document :=
  match (v.get? "profiles").bind Json.fields? with
  | none => .error .missingProfiles
  | some fields => (fields.mapM fun field => Profile.read field.1 field.2).map Document.mk

/-- The document of a JSON text. -/
def readText (text : String) : Except Error Document := do
  read (← (Json.read text).mapError .notJson)

/-- A profile by its path. -/
def find? (d : Document) (path : String) : Option Profile := d.profiles.find? (·.name.path == path)

end Document

end ProfileBindings
