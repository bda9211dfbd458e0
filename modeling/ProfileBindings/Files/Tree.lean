import ProfileBindings.Files.Basic

/-!
# Trees of files

A tree holds bytes and directories at places; there are no links. A path is followed component by
component, and whatever it goes through has to be a directory that is there. Reading changes nothing, and
writing changes the one place that the path leads to.

Main definitions:
* `Place`, `Entry`, `Tree` : the tree and what stands where;
* `Tree.follow`, `Tree.locate` : the place that a path leads to;
* `Tree.read`, `Tree.write` : the bytes of a file.

Main statements: `get?_put` and `get?_write_of_ne` say what a tree holds after a change.
-/

namespace ProfileBindings.Files

/-- A place: the names that lead to it from the root. -/
abbrev Place := List String

/-- What stands at a place. -/
inductive Entry where
  | file (bytes : ByteArray)
  | directory

/-- What stands at places, and the directory that relative paths start from. -/
structure Tree where
  entries : List (Place × Entry)
  current : Place

namespace Tree

/-- What stands at a place, if anything. The root is always a directory. -/
def get? (t : Tree) (place : Place) : Option Entry :=
  if place = [] then some .directory else t.entries.lookup place

/-- Let something stand at a place in the stead of what was there. -/
def put (t : Tree) (place : Place) (entry : Entry) : Tree :=
  { t with entries := (place, entry) :: t.entries }

/-- Let nothing stand at a place. -/
def clear (t : Tree) (place : Place) : Tree :=
  { t with entries := t.entries.filter fun e => e.1 ≠ place }

/-- A tree with nothing but the directories that lead to the current one. -/
def ofDirectory (current : Place) : Tree where
  entries := (List.range current.length).map fun n => (current.take (n + 1), .directory)
  current := current

/-! ## Paths -/

/-- The longest name. -/
def longestName : Nat := 255

/-- The longest path. -/
def longestPath : Nat := 4095

/-- The steps of a path. What ends in a slash leads to a directory, like a path that ends in a dot. -/
def steps (path : String) : List String :=
  let names := ((Text.segments (· == '/') path.toList).map String.ofList).filter (· ≠ "")
  if Text.hasSuffix "/" path then names ++ ["."] else names

/-- Go on from a place along steps. A dot stays, two dots lead up; every other step is a name. -/
def follow (t : Tree) : Place → List String → Except Error Place
  | place, [] => .ok place
  | place, step :: rest =>
    match t.get? place with
    | none => .error .notFound
    | some (.file _) => .error .notDirectory
    | some .directory =>
      if step = "." then t.follow place rest
      else if step = ".." then t.follow place.dropLast rest
      else if longestName < step.utf8ByteSize then .error .nameTooLong
      else t.follow (place ++ [step]) rest

/-- The place that a path leads to. Something need not be there, but what leads to it is. -/
def locate (t : Tree) (path : String) : Except Error Place :=
  if path.toList.contains '\x00' then .error .invalidName
  else if path = "" then .error .notFound
  else if longestPath < path.utf8ByteSize then .error .nameTooLong
  else t.follow (if Path.isAbsolute path then [] else t.current) (steps path)

/-! ## Files -/

/-- The bytes of a file. -/
def read (t : Tree) (path : String) : Except Error ByteArray := do
  let place ← t.locate path
  match t.get? place with
  | none => .error .notFound
  | some .directory => .error .isDirectory
  | some (.file bytes) => .ok bytes

/-- Write a file; it need not be there yet, but the directory that it stands in does. -/
def write (t : Tree) (path : String) (bytes : ByteArray) : Except Error Tree := do
  let place ← t.locate path
  match t.get? place with
  | some .directory => .error .isDirectory
  | _ => return t.put place (.file bytes)

/-- Make the directories along steps that are not there yet. -/
def makeDirectories (t : Tree) (place : Place) : List String → Tree
  | [] => t
  | step :: rest =>
    if step = "." then t.makeDirectories place rest
    else if step = ".." then t.makeDirectories place.dropLast rest
    else
      let next := place ++ [step]
      match t.get? next with
      | none => (t.put next .directory).makeDirectories next rest
      | some _ => t.makeDirectories next rest

/-! ## What a tree holds after a change -/

theorem get?_put {t : Tree} {place other : Place} {entry : Entry} (h : place ≠ []) :
    (t.put place entry).get? other = if other = place then some entry else t.get? other := by
  unfold get? put
  by_cases ho : other = place
  · subst ho; simp [h]
  · have : (other == place) = false := by simpa using ho
    simp [ho, List.lookup_cons, this]

theorem get?_write_of_ne {t t' : Tree} {path : String} {bytes : ByteArray} {other : Place}
    (h : t.write path bytes = .ok t') (ho : t.locate path ≠ .ok other) :
    t'.get? other = t.get? other := by
  unfold write at h
  cases hl : t.locate path with
  | error e => simp [hl, bind, Except.bind] at h
  | ok place =>
    have hp : other ≠ place := fun e => ho (by rw [hl, e])
    have put_ne : (t.put place (.file bytes)).get? other = t.get? other := by
      have : (other == place) = false := by simpa using hp
      simp [get?, put, List.lookup_cons, this]
    cases he : t.get? place with
    | none => simp [hl, he, bind, Except.bind, pure, Except.pure] at h; rw [← h]; exact put_ne
    | some entry =>
      cases entry with
      | directory => simp [hl, he, bind, Except.bind] at h
      | file old => simp [hl, he, bind, Except.bind, pure, Except.pure] at h; rw [← h]; exact put_ne

end Tree

end ProfileBindings.Files
