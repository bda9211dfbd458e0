import Mathlib.Data.List.Basic
import ProfileBindings.Files.Tree
import ProfileBindings.Proofs.Text.Segments

/-!
# Reading and writing trees

Where a path leads depends only on what is a directory. Writing a file leaves the directories as they are, so
that all paths lead where they led before; it changes what the file holds, and nothing else.

* `SameDirectories` : two trees have the same directories;
* `CanWrite` : a path leads to something that is no directory;
* `Writes` : what a tree is after a file has been written.

Main statements:
* `SameDirectories.locate_eq_ok_iff` : paths lead to the same places;
* `write_eq_ok` : where a file can be written, it holds the bytes from then on.
-/

namespace ProfileBindings.Files.Tree

variable {t t' : Tree} {path : String} {place : Place} {bytes : ByteArray}

/-- A directory stands at a place. -/
def IsDirectory (t : Tree) (place : Place) : Prop := t.get? place = some .directory

/-- The trees have the same directories, and relative paths start from the same one. -/
structure SameDirectories (t t' : Tree) : Prop where
  current : t'.current = t.current
  directories : ∀ place, t'.IsDirectory place ↔ t.IsDirectory place

theorem SameDirectories.refl (t : Tree) : SameDirectories t t := ⟨rfl, fun _ => Iff.rfl⟩

theorem SameDirectories.trans {t'' : Tree} (h : SameDirectories t t') (h' : SameDirectories t' t'') :
    SameDirectories t t'' :=
  ⟨h'.current.trans h.current, fun place => (h'.directories place).trans (h.directories place)⟩

/-- A step can be taken from directories only. -/
theorem follow_cons_eq_ok_iff {step : String} {rest : List String} {target : Place} :
    t.follow place (step :: rest) = .ok target ↔
      t.IsDirectory place ∧
        if step = "." then t.follow place rest = .ok target
        else if step = ".." then t.follow place.dropLast rest = .ok target
        else step.utf8ByteSize ≤ longestName ∧ t.follow (place ++ [step]) rest = .ok target := by
  rw [follow, IsDirectory]
  cases t.get? place with
  | none => simp
  | some entry =>
    cases entry with
    | file bytes => simp
    | directory =>
      simp only [true_and]
      split
      · rfl
      · split
        · rfl
        · split
          · next hlong => simp [Nat.not_le.mpr hlong]
          · next hshort => simp [Nat.not_lt.mp hshort]

theorem SameDirectories.follow_eq_ok_iff (h : SameDirectories t t') {steps : List String} {target : Place} :
    t'.follow place steps = .ok target ↔ t.follow place steps = .ok target := by
  induction steps generalizing place with
  | nil => rw [follow, follow]
  | cons step rest ih => simp only [follow_cons_eq_ok_iff, h.directories, ih]

/-- Where paths lead is told by the directories. -/
theorem SameDirectories.locate_eq_ok_iff (h : SameDirectories t t') :
    t'.locate path = .ok place ↔ t.locate path = .ok place := by
  rw [locate, locate, h.current]
  split
  · rfl
  · split
    · rfl
    · split
      · rfl
      · exact h.follow_eq_ok_iff

/-! ## Reading -/

theorem read_eq_ok_iff :
    t.read path = .ok bytes ↔ ∃ place, t.locate path = .ok place ∧ t.get? place = some (.file bytes) := by
  rw [read]
  cases t.locate path with
  | error e => simp [bind, Except.bind]
  | ok place =>
    simp only [bind, Except.bind, Except.ok.injEq, exists_eq_left']
    cases t.get? place with
    | none => simp
    | some entry => cases entry <;> simp

/-- The path leads to a file, or to nothing. -/
def CanRead (t : Tree) (path : String) : Prop :=
  (∃ bytes, t.read path = .ok bytes) ∨ t.read path = .error .notFound

/-! ## Writing -/

/-- The path leads to something that is no directory. It need not be there. -/
def CanWrite (t : Tree) (path : String) : Prop :=
  ∃ place, t.locate path = .ok place ∧ ¬t.IsDirectory place

theorem SameDirectories.canWrite_iff (h : SameDirectories t t') : t'.CanWrite path ↔ t.CanWrite path := by
  simp only [CanWrite, h.locate_eq_ok_iff, h.directories]

theorem canWrite_of_read (h : t.read path = .ok bytes) : t.CanWrite path := by
  obtain ⟨place, hlocate, hget⟩ := read_eq_ok_iff.mp h
  refine ⟨place, hlocate, ?_⟩
  simp [IsDirectory, hget]

/-- What can be written can be read, unless it is not there. -/
theorem CanWrite.canRead (h : t.CanWrite path) : t.CanRead path := by
  obtain ⟨place, hlocate, hfile⟩ := h
  rw [CanRead, Tree.read, hlocate]
  cases hget : t.get? place with
  | none => exact Or.inr (by simp [bind, Except.bind, hget])
  | some entry =>
    cases entry with
    | file bytes => exact Or.inl ⟨bytes, by simp [bind, Except.bind, hget]⟩
    | directory => exact absurd hget hfile

/-- What a tree is after a file has been written. -/
structure Writes (t : Tree) (path : String) (bytes : ByteArray) (t' : Tree) : Prop where
  same : SameDirectories t t'
  /-- The file holds the bytes. -/
  read : t'.read path = .ok bytes
  /-- All else is as it was. -/
  others : ∀ place, t.locate path ≠ .ok place → t'.get? place = t.get? place

/-- What holds the bytes already need not be written. -/
theorem Writes.of_read (h : t.read path = .ok bytes) : Writes t path bytes t := ⟨.refl t, h, fun _ _ => rfl⟩

theorem sameDirectories_put (bytes : ByteArray) (h : ¬t.IsDirectory place) :
    SameDirectories t (t.put place (.file bytes)) := by
  refine ⟨rfl, fun other => ?_⟩
  have hroot : place ≠ [] := by
    rintro rfl
    exact h rfl
  rw [IsDirectory, get?_put hroot]
  split
  · next heq =>
    rw [heq]
    simpa using h
  · rfl

/-- Where a file can be written, it holds the bytes from then on. -/
theorem write_eq_ok (bytes : ByteArray) (h : t.CanWrite path) :
    ∃ t', t.write path bytes = .ok t' ∧ Writes t path bytes t' := by
  obtain ⟨place, hlocate, hfile⟩ := h
  have hwrite : t.write path bytes = .ok (t.put place (.file bytes)) := by
    rw [write, hlocate]
    simp only [bind, Except.bind]
    cases hget : t.get? place with
    | none => rfl
    | some entry =>
      cases entry with
      | file _ => rfl
      | directory => exact absurd hget hfile
  have hsame := sameDirectories_put bytes hfile
  refine ⟨_, hwrite, hsame, ?_, fun _ hother => get?_write_of_ne hwrite hother⟩
  refine read_eq_ok_iff.mpr ⟨place, hsame.locate_eq_ok_iff.mpr hlocate, ?_⟩
  have hroot : place ≠ [] := by
    rintro rfl
    exact hfile rfl
  rw [get?_put hroot, if_pos rfl]

theorem write_eq_error (bytes : ByteArray) (h : ¬t.CanWrite path) : ∃ e, t.write path bytes = .error e := by
  rw [write]
  cases hlocate : t.locate path with
  | error e => exact ⟨e, rfl⟩
  | ok place =>
    have hdirectory : t.get? place = some .directory := by
      by_contra hnot
      exact h ⟨place, hlocate, hnot⟩
    exact ⟨.isDirectory, by simp [bind, Except.bind, hdirectory]⟩

/-- A file that has been written could be written, and holds the bytes from then on. -/
theorem writes_of_write_eq_ok (h : t.write path bytes = .ok t') : Writes t path bytes t' := by
  by_cases hwrite : t.CanWrite path
  · obtain ⟨t'', h'', hwrites⟩ := write_eq_ok bytes hwrite
    obtain rfl : t'' = t' := Except.ok.inj (h''.symm.trans h)
    exact hwrites
  · obtain ⟨e, he⟩ := write_eq_error bytes hwrite
    rw [he] at h
    cases h

/-! ## The name of a place -/

/-- A path that ends in a name leads to a place of that name. -/
theorem getLast?_of_follow {front : List String} {name : String} {target : Place}
    (hdot : name ≠ ".") (hdots : name ≠ "..") (h : t.follow place (front ++ [name]) = .ok target) :
    target.getLast? = some name := by
  induction front generalizing place with
  | nil =>
    rw [List.nil_append, follow_cons_eq_ok_iff, if_neg hdot, if_neg hdots] at h
    obtain ⟨-, -, h⟩ := h
    rw [follow] at h
    obtain rfl := Except.ok.inj h
    simp
  | cons step front ih =>
    rw [List.cons_append, follow_cons_eq_ok_iff] at h
    obtain ⟨-, h⟩ := h
    split at h
    · exact ih h
    · split at h
      · exact ih h
      · exact ih h.2

/-- A path that ends in some text without a slash has a last step that ends so, too. -/
theorem exists_last_step {ending : String} (hne : ending ≠ "") (hslash : '/' ∉ ending.toList)
    (h : Text.hasSuffix ending path = true) :
    ∃ front name, steps path = front ++ [name] ∧ Text.hasSuffix ending name = true := by
  obtain ⟨cs, hpath⟩ : ending.toList <:+ path.toList := Text.hasSuffix_iff.mp h
  have hsep : ∀ c ∈ ending.toList, (c == '/') = false := by
    rintro c hc
    have hc' : c ≠ '/' := by
      rintro rfl
      exact hslash hc
    simpa using hc'
  obtain ⟨front, piece, hsegments⟩ := Text.exists_segments_append hsep cs
  have hcs : ending.toList ≠ [] := by simpa using hne
  have hnoSlash : Text.hasSuffix "/" path = false := by
    by_contra hnot
    obtain ⟨front, hfront⟩ : ['/'] <:+ path.toList := by simpa [Text.hasSuffix] using hnot
    have hlast : ending.toList.getLast? = some '/' := by
      rw [← List.getLast?_append_of_ne_nil cs hcs, hpath, ← hfront, List.getLast?_concat]
    exact hslash (List.mem_of_getLast? hlast)
  refine ⟨(front.map String.ofList).filter (· ≠ ""), String.ofList (piece ++ ending.toList), ?_, ?_⟩
  · rw [steps, hnoSlash, ← hpath, hsegments, List.map_append, List.filter_append]
    simp [hne]
  · simp [Text.hasSuffix]

end ProfileBindings.Files.Tree
