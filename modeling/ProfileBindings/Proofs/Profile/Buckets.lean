import Mathlib.Data.List.Induction
import ProfileBindings.Profile.Buckets
import ProfileBindings.Proofs.Repeats
import ProfileBindings.Proofs.Sorted.Table

/-!
# What buckets hold

The buckets of a list of paths are told from the list at once: the bucket of a length holds the paths of
that length, each once, in the order in which they first come.

Main statements:
* `Buckets.bucket?_ofPaths` : the bucket of each length;
* `Buckets.accepts_ofPaths` : a path is accepted exactly if it is in the list;
* `Buckets.accepts_ofProfile` : the same for the canonical paths of a profile.
-/

namespace ProfileBindings.Buckets

/-- The paths of one length, each once, in the order in which they first come. -/
def ofLength (paths : List String) (length : Nat) : List String :=
  paths.eraseDups.filter (·.utf8ByteSize = length)

/-- The buckets hold the paths of the list: there is no bucket for a length that no path has. -/
def Hold (paths : List String) (b : Buckets) : Prop :=
  ∀ length, b.bucket? length =
    if ofLength paths length = [] then none else some (ofLength paths length)

theorem mem_ofLength {paths : List String} {length : Nat} {path : String} :
    path ∈ ofLength paths length ↔ path ∈ paths ∧ path.utf8ByteSize = length := by
  simp [ofLength, List.mem_eraseDups]

theorem ofLength_append_of_mem {paths : List String} {path : String} (h : path ∈ paths)
    (length : Nat) : ofLength (paths ++ [path]) length = ofLength paths length := by
  rw [ofLength, eraseDups_concat, if_pos h, List.append_nil, ofLength]

theorem ofLength_append_of_not_mem {paths : List String} {path : String} (h : path ∉ paths)
    (length : Nat) :
    ofLength (paths ++ [path]) length
      = ofLength paths length ++ if path.utf8ByteSize = length then [path] else [] := by
  rw [ofLength, eraseDups_concat, if_neg h, List.filter_append]
  by_cases hlength : path.utf8ByteSize = length <;> simp [ofLength, hlength]

namespace Hold

variable {paths : List String} {b : Buckets}

theorem accepts_iff (h : Hold paths b) (path : String) : b.accepts path = true ↔ path ∈ paths := by
  unfold accepts
  rw [h path.utf8ByteSize]
  split
  · next hnone =>
    have hempty : ofLength paths path.utf8ByteSize = [] := by simpa using hnone
    have hnot : path ∉ ofLength paths path.utf8ByteSize := by simp [hempty]
    simpa [mem_ofLength] using hnot
  · next found hsome =>
    have hfound : ofLength paths path.utf8ByteSize = found := by
      split at hsome
      · contradiction
      · exact Option.some.inj hsome
    rw [← hfound, List.contains_iff_mem, mem_ofLength]
    exact and_iff_left rfl

theorem empty : Hold [] Buckets.empty := fun _ => rfl

/-- Putting a path into the buckets puts it behind the list. -/
theorem insert (h : Hold paths b) (path : String) : Hold (paths ++ [path]) (b.insert path) := by
  intro length
  by_cases hmem : path ∈ paths
  · have haccepts : b.accepts path = true := (h.accepts_iff path).mpr hmem
    rw [ofLength_append_of_mem hmem, Buckets.insert, if_pos haccepts, h length]
  · have haccepts : ¬b.accepts path = true := fun ha => hmem ((h.accepts_iff path).mp ha)
    rw [ofLength_append_of_not_mem hmem, Buckets.insert, if_neg haccepts]
    have hbucket := h length
    simp only [bucket?, Sorted.Table.get?_update] at hbucket ⊢
    -- The path goes into one bucket, which may be new, and the others stay.
    by_cases hlength : path.utf8ByteSize = length
    · subst hlength
      rw [hbucket]
      by_cases hempty : ofLength paths path.utf8ByteSize = [] <;> simp [hempty]
    · simpa [hlength] using hbucket

end Hold

theorem hold_ofPaths (paths : List String) : Hold paths (ofPaths paths) := by
  -- Paths are put in from the front, so the induction takes them off at the back.
  induction paths using List.reverseRecOn with
  | nil => exact Hold.empty
  | append_singleton paths path ih =>
    rw [ofPaths, List.foldl_append]
    exact ih.insert path

theorem bucket?_ofPaths (paths : List String) (length : Nat) :
    (ofPaths paths).bucket? length =
      if ofLength paths length = [] then none else some (ofLength paths length) :=
  hold_ofPaths paths length

theorem accepts_ofPaths (paths : List String) (path : String) :
    (ofPaths paths).accepts path = true ↔ path ∈ paths := (hold_ofPaths paths).accepts_iff path

theorem accepts_ofProfile (p : Profile) (path : String) :
    (ofProfile p).accepts path = true ↔ ∃ c ∈ p.expand, path ∈ c.paths := by
  rw [ofProfile, accepts_ofPaths, List.mem_flatMap]

/-! ## The buckets as a list -/

theorem mem_toList {b : Buckets} {length : Nat} {paths : List String} :
    (length, paths) ∈ b.toList ↔ b.bucket? length = some paths :=
  Sorted.Table.get?_eq_some_iff.symm

theorem nodup_lengths (b : Buckets) : (b.toList.map Prod.fst).Nodup := b.byLength.nodup_keys

/-- A bucket of a profile has the length of its paths. -/
theorem utf8ByteSize_of_mem_ofProfile {p : Profile} {length : Nat} {paths : List String}
    (h : (length, paths) ∈ (ofProfile p).toList) : ∀ path ∈ paths, path.utf8ByteSize = length := by
  intro path hpath
  rw [mem_toList, ofProfile, bucket?_ofPaths] at h
  split at h
  · contradiction
  · rw [← Option.some.inj h] at hpath
    exact (mem_ofLength.mp hpath).2

end ProfileBindings.Buckets
