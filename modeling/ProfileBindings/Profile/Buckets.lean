import ProfileBindings.Profile.Component
import ProfileBindings.Sorted.Table

/-!
# Length buckets

The canonical paths of a profile, sorted into buckets by their length in bytes: a candidate is compared
only with the paths of its own length. A bucket holds each path once, in the order in which the paths
first came.

Main definitions: `Buckets`, `Buckets.insert`, `Buckets.ofProfile`, `Buckets.accepts`.
-/

namespace ProfileBindings

/-- Paths by their length in bytes. -/
structure Buckets where
  byLength : Sorted.Table Nat (List String)

namespace Buckets

/-- No paths. -/
def empty : Buckets := ⟨.empty⟩

/-- The paths of one length. -/
def bucket? (b : Buckets) (length : Nat) : Option (List String) := b.byLength.get? length

/-- The path is among the paths of its length. -/
def accepts (b : Buckets) (path : String) : Bool :=
  match b.bucket? path.utf8ByteSize with
  | none => false
  | some paths => paths.contains path

/-- Put a path behind the others of its length, unless it is among them. -/
def insert (b : Buckets) (path : String) : Buckets :=
  if b.accepts path then b
  else ⟨b.byLength.update path.utf8ByteSize fun paths => paths.getD [] ++ [path]⟩

/-- Put a path into its bucket and say whether it is new there. -/
def insertNew (b : Buckets) (path : String) : Bool × Buckets := (!b.accepts path, b.insert path)

/-- The buckets of a list of paths. -/
def ofPaths (paths : List String) : Buckets := paths.foldl insert empty

/-- The buckets of a profile: all canonical paths of its components. -/
def ofProfile (p : Profile) : Buckets := ofPaths (p.expand.flatMap Component.paths)

/-- The buckets in ascending order of length. -/
def toList (b : Buckets) : List (Nat × List String) := b.byLength.entries

/-- The number of lengths. -/
def bucketCount (b : Buckets) : Nat := b.toList.length

/-- The number of paths. -/
def pathCount (b : Buckets) : Nat := (b.toList.flatMap Prod.snd).length

/-- There are no paths. -/
def isEmpty (b : Buckets) : Bool := b.toList.isEmpty

end Buckets

end ProfileBindings
