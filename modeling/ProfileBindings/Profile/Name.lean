import ProfileBindings.Text.Words

/-!
# Profile names

An interaction profile is named by a path: a fixed beginning, then segments of letters, digits and
underscores, at least two of them. The last segment is the device, the one before it the vendor. All other
names of a profile are made of the segments, so that they can be pasted into identifiers and file names.

Main definitions:
* `ProfileName` : the segments;
* `ProfileName.parse` : from the path, or why it is none;
* `ProfileName.path` : the path again;
* `ProfileName.stem`, `steamvrInputProfilePath`, `steamvrControllerType` : the names made of the segments.
-/

namespace ProfileBindings

/-- How every profile path begins. -/
def ProfileName.root : String := "/interaction_profiles/"

/-- The name of an interaction profile, by its segments. -/
structure ProfileName where
  segments : List String
  two_le : 2 ≤ segments.length
  wordRuns : ∀ s ∈ segments, Text.isWordRun s.toList = true
deriving DecidableEq

namespace ProfileName

/-- Why a path names no profile. -/
inductive Fault where
  | wrongRoot
  | tooFewSegments
  | badSegment (segment : String)
deriving DecidableEq, Repr

/-- A fault in words. -/
def Fault.message : Fault → String
  | wrongRoot => "must start with '" ++ root ++ "'"
  | tooFewSegments => "expected /interaction_profiles/<vendor>/<device>"
  | badSegment segment =>
    "segment '" ++ segment ++ "' may only contain ASCII letters, digits and '_'"

/-- The segments of a path behind its beginning. -/
def segmentsOf (rest : List Char) : List String :=
  (Text.segments (· == '/') rest).map String.ofList

/-- The name that a path stands for. -/
def parse (path : String) : Except Fault ProfileName :=
  match Text.dropPrefix? root.toList path.toList with
  | none => .error .wrongRoot
  | some rest =>
    let segments := segmentsOf rest
    if two_le : 2 ≤ segments.length then
      match found : segments.find? fun s => !Text.isWordRun s.toList with
      | some segment => .error (.badSegment segment)
      | none =>
        .ok ⟨segments, two_le, fun s hs => by
          have h := List.find?_eq_none.mp found s hs
          simpa using h⟩
    else .error .tooFewSegments

/-- The path. -/
def path (name : ProfileName) : String := root ++ "/".intercalate name.segments

/-- The segments as one word: what the functions of a profile are named by. -/
def stem (name : ProfileName) : String := "_".intercalate name.segments

/-- The last segment. -/
def device (name : ProfileName) : String :=
  name.segments.getLast fun h => by
    have := name.two_le
    simp [h] at this

/-- The segment before the last. -/
def vendor (name : ProfileName) : String :=
  name.segments.dropLast.getLast fun h => by
    have := congrArg List.length h
    have := name.two_le
    simp at *
    omega

/-- The file that describes the inputs of the controller to SteamVR. -/
def steamvrInputProfilePath (name : ProfileName) : String :=
  name.vendor ++ "_" ++ name.device ++ "_profile.json"

/-- The type of the controller for SteamVR. -/
def steamvrControllerType (name : ProfileName) : String :=
  "monado_" ++ name.vendor ++ "_" ++ name.device

end ProfileName

end ProfileBindings
