import ProfileBindings.Artifact.VerifyFunction
import ProfileBindings.Command.Check
import ProfileBindings.Json.Writer

/-!
# The command that lists

Each profile in a line: its path, title, device, number of bindings and verify function, if asked for with
the buckets that the function distinguishes. A document with errors is listed too.

Main definitions: `Summary`, `Summary.ofProfile`, `summarize`, `list`.
-/

namespace ProfileBindings.Command

/-- What to list. -/
structure ListRequest where
  input : Input
  /-- Also list the paths. -/
  withPaths : Bool
  /-- As JSON. -/
  asJson : Bool
deriving DecidableEq, Repr

/-- What is listed of a profile. -/
structure Summary where
  path : String
  title : String
  device : String
  verifyFunction : String
  bindings : Nat
  /-- The paths by their length. -/
  buckets : Option (List (Nat × List String))

namespace Summary

/-- The summary of a profile. -/
def ofProfile (config : Config) (withPaths : Bool) (p : Profile) : Summary where
  path := p.name.path
  title := p.title
  device := p.device
  verifyFunction := Artifact.VerifyFunction.nameOf config p.name
  bindings := p.expand.length
  buckets := if withPaths then some (Buckets.ofProfile p).toList else none

/-- A bucket as a value. -/
def bucketValue (bucket : Nat × List String) : Json :=
  .obj [("length", .int bucket.1), ("paths", .arr (bucket.2.map .str))]

/-- A summary as a value. -/
def write (s : Summary) : Json :=
  .obj <| [
    ("path", .str s.path),
    ("title", .str s.title),
    ("device", .str s.device),
    ("verify_function", .str s.verifyFunction),
    ("bindings", .int s.bindings)]
    ++ match s.buckets with
      | none => []
      | some buckets => [("buckets", .arr (buckets.map bucketValue))]

/-- The lines about a bucket. -/
def bucketLines (bucket : Nat × List String) : List String :=
  ("  case " ++ toString bucket.1 ++ ":") :: bucket.2.map ("    " ++ ·)

/-- The lines of a summary. -/
def lines (s : Summary) : List String :=
  (s.path ++ "  \"" ++ s.title ++ "\"  " ++ s.device ++ "  " ++ toString s.bindings
    ++ " binding(s)  " ++ s.verifyFunction) :: (s.buckets.getD []).flatMap bucketLines

end Summary

variable {m : Type → Type} [Monad m] [Host m]

/-- The summaries of the profiles of a document. -/
def summarize (r : ListRequest) (config : Config) : Action m (List Summary) := do
  let checked ← check r.input config
  report checked
  return checked.model.profiles.map (Summary.ofProfile config r.withPaths)

/-- List. -/
def list (r : ListRequest) (config : Config) : Action m Nat := do
  let summaries ← summarize r config
  if r.asJson then Host.say (Json.indented (.arr (summaries.map Summary.write)))
  else (summaries.flatMap Summary.lines).forM Host.say
  return 0

end ProfileBindings.Command
