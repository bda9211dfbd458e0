import Mathlib.Data.Finset.Card
import Mathlib.Data.Finset.Image
import ProfileBindings.Proofs.Profile.Buckets

/-!
# Buckets after a history of insertions

Paths are put into buckets one by one. Whatever has been put in so far, the buckets show no more of it than
which paths there are and in which order they first came.

* `insertions` : what each insertion of a run answers, and the buckets behind it;
* `Represents` : what the buckets are after a history of insertions.

Main statements:
* `Hold.represents` : the invariant `Hold` says everything that can be seen of the buckets;
* `Hold.insertions` : each insertion of a run keeps it, and answers whether its path is new;
* `insertions_represent_history` : both, from empty buckets on, and the same for the buckets of a profile.
-/

namespace ProfileBindings.Buckets

/-- What each insertion of a run answers, and the buckets behind it. -/
def insertions (b : Buckets) : List String → List (Bool × Buckets)
  | [] => []
  | path :: rest => b.insertNew path :: insertions (b.insertNew path).2 rest

/-- What the buckets are after a history of insertions. -/
structure Represents (history : List String) (b : Buckets) : Prop where
  ascending : (b.toList.map Prod.fst).Pairwise (· < ·)
  nonempty : ∀ entry ∈ b.toList, entry.2 ≠ []
  nodup : ∀ entry ∈ b.toList, entry.2.Nodup
  lengths : ∀ entry ∈ b.toList, ∀ path ∈ entry.2, path.utf8ByteSize = entry.1
  /-- Within a bucket the paths stand in the order in which they first came. -/
  inOrder : ∀ entry ∈ b.toList, entry.2.Pairwise fun x y => history.idxOf x < history.idxOf y
  accepts : ∀ path, b.accepts path = true ↔ path ∈ history
  pathCount : b.pathCount = history.toFinset.card
  bucketCount : b.bucketCount = (history.toFinset.image String.utf8ByteSize).card

/-! ## The paths of one length -/

theorem pairwise_idxOf_ofLength (history : List String) (length : Nat) :
    (ofLength history length).Pairwise fun x y => history.idxOf x < history.idxOf y :=
  (pairwise_idxOf_eraseDups history).filter _

theorem nodup_ofLength (history : List String) (length : Nat) : (ofLength history length).Nodup :=
  (nodup_eraseDups history).filter _

/-! ## What can be seen of the buckets -/

namespace Hold

variable {history : List String} {b : Buckets}

theorem mem_toList_iff (h : Hold history b) {length : Nat} {found : List String} :
    (length, found) ∈ b.toList ↔ found = ofLength history length ∧ found ≠ [] := by
  rw [Buckets.mem_toList, h length]
  split
  · next hempty =>
    constructor
    · intro hnone
      contradiction
    · rintro ⟨rfl, hne⟩
      exact absurd hempty hne
  · next hne =>
    rw [Option.some.injEq]
    constructor
    · rintro rfl
      exact ⟨rfl, hne⟩
    · rintro ⟨rfl, -⟩
      rfl

/-- All paths of all buckets are the paths of the history, each once. -/
theorem nodup_paths (h : Hold history b) : (b.toList.flatMap Prod.snd).Nodup := by
  rw [List.nodup_flatMap]
  constructor
  · rintro ⟨length, found⟩ hentry
    obtain ⟨rfl, -⟩ := h.mem_toList_iff.mp hentry
    exact nodup_ofLength history length
  · have hlengths := b.nodup_lengths
    rw [List.Nodup, List.pairwise_map] at hlengths
    refine hlengths.imp_of_mem ?_
    rintro ⟨n, found⟩ ⟨m, other⟩ hfound hother hne path hpath hpath'
    -- A path that two buckets hold would have two lengths.
    obtain ⟨rfl, -⟩ := h.mem_toList_iff.mp hfound
    obtain ⟨rfl, -⟩ := h.mem_toList_iff.mp hother
    exact hne ((mem_ofLength.mp hpath).2.symm.trans (mem_ofLength.mp hpath').2)

theorem mem_paths_iff (h : Hold history b) {path : String} :
    path ∈ b.toList.flatMap Prod.snd ↔ path ∈ history := by
  rw [List.mem_flatMap]
  constructor
  · rintro ⟨⟨length, found⟩, hentry, hpath⟩
    obtain ⟨rfl, -⟩ := h.mem_toList_iff.mp hentry
    exact (mem_ofLength.mp hpath).1
  · intro hpath
    have hmem : path ∈ ofLength history path.utf8ByteSize := mem_ofLength.mpr ⟨hpath, rfl⟩
    exact ⟨_, h.mem_toList_iff.mpr ⟨rfl, List.ne_nil_of_mem hmem⟩, hmem⟩

theorem mem_lengths_iff (h : Hold history b) {length : Nat} :
    length ∈ b.toList.map Prod.fst ↔ ∃ path ∈ history, path.utf8ByteSize = length := by
  simp only [List.mem_map, Prod.exists, exists_and_right, exists_eq_right, h.mem_toList_iff]
  constructor
  · rintro ⟨_, rfl, hne⟩
    obtain ⟨path, hpath⟩ := List.exists_mem_of_ne_nil _ hne
    exact ⟨path, mem_ofLength.mp hpath⟩
  · rintro ⟨path, hpath⟩
    exact ⟨_, rfl, List.ne_nil_of_mem (mem_ofLength.mpr hpath)⟩

theorem pathCount_eq (h : Hold history b) : b.pathCount = history.toFinset.card := by
  have hpaths : (b.toList.flatMap Prod.snd).toFinset = history.toFinset := by
    ext path
    rw [List.mem_toFinset, List.mem_toFinset, h.mem_paths_iff]
  rw [Buckets.pathCount, ← hpaths, List.toFinset_card_of_nodup h.nodup_paths]

theorem bucketCount_eq (h : Hold history b) :
    b.bucketCount = (history.toFinset.image String.utf8ByteSize).card := by
  have hlengths : (b.toList.map Prod.fst).toFinset = history.toFinset.image String.utf8ByteSize := by
    ext length
    rw [List.mem_toFinset, h.mem_lengths_iff]
    simp
  rw [Buckets.bucketCount, ← hlengths, List.toFinset_card_of_nodup b.nodup_lengths, List.length_map]

/-- The invariant says everything that can be seen of the buckets. -/
theorem represents (h : Hold history b) : Represents history b where
  ascending := b.byLength.ascending
  nonempty := by
    rintro ⟨length, found⟩ hentry
    exact (h.mem_toList_iff.mp hentry).2
  nodup := by
    rintro ⟨length, found⟩ hentry
    obtain ⟨rfl, -⟩ := h.mem_toList_iff.mp hentry
    exact nodup_ofLength history length
  lengths := by
    rintro ⟨length, found⟩ hentry path hpath
    obtain ⟨rfl, -⟩ := h.mem_toList_iff.mp hentry
    exact (mem_ofLength.mp hpath).2
  inOrder := by
    rintro ⟨length, found⟩ hentry
    obtain ⟨rfl, -⟩ := h.mem_toList_iff.mp hentry
    exact pairwise_idxOf_ofLength history length
  accepts := h.accepts_iff
  pathCount := h.pathCount_eq
  bucketCount := h.bucketCount_eq

/-! ## Runs -/

theorem insertNew_fst (h : Hold history b) (path : String) :
    (b.insertNew path).1 = decide (path ∉ history) := by
  have haccepts := h.accepts_iff path
  rw [Buckets.insertNew]
  by_cases hmem : path ∈ history
  · simp [hmem, haccepts.mpr hmem]
  · have hnot : b.accepts path = false := Bool.eq_false_iff.mpr fun ha => hmem (haccepts.mp ha)
    simp [hmem, hnot]

/-- Each insertion of a run answers whether its path is new, and keeps the invariant. -/
theorem insertions (h : Hold history b) (before after : List String) (path : String) :
    ∃ b', (b.insertions (before ++ path :: after))[before.length]? =
        some (decide (path ∉ history ++ before), b') ∧
      Hold (history ++ before ++ [path]) b' := by
  induction before generalizing history b with
  | nil =>
    refine ⟨b.insert path, ?_, by simpa using h.insert path⟩
    have hanswer := h.insertNew_fst path
    simp [Buckets.insertions, Buckets.insertNew, hanswer.symm]
  | cons first before ih =>
    obtain ⟨b', hstep, hhold⟩ := ih (h.insert first)
    refine ⟨b', ?_, by simpa using hhold⟩
    simpa [Buckets.insertions, Buckets.insertNew] using hstep

end Hold

theorem length_insertions (b : Buckets) (paths : List String) :
    (b.insertions paths).length = paths.length := by
  induction paths generalizing b with
  | nil => rfl
  | cons path paths ih => rw [insertions, List.length_cons, ih, List.length_cons]

/-- Empty buckets represent nothing, and in a run that begins with them each insertion leaves buckets that
represent what has been put in up to it, and answers whether its path is new. The buckets of a profile are
those of the paths of its components. -/
theorem insertions_represent_history :
    Represents [] empty ∧
      (∀ paths, (empty.insertions paths).length = paths.length) ∧
      (∀ before path after, ∃ b,
        (empty.insertions (before ++ path :: after))[before.length]? = some (decide (path ∉ before), b) ∧
          Represents (before ++ [path]) b) ∧
      ∀ p : Profile, (∀ path, (ofProfile p).accepts path = true ↔ ∃ c ∈ p.expand, path ∈ c.paths) ∧
        (ofProfile p).pathCount = (p.expand.flatMap Component.paths).toFinset.card := by
  refine ⟨Hold.empty.represents, length_insertions empty, fun before path after => ?_, fun p => ?_⟩
  · obtain ⟨b, hstep, hhold⟩ := Hold.empty.insertions before after path
    exact ⟨b, by simpa using hstep, by simpa using hhold.represents⟩
  · exact ⟨accepts_ofProfile p, (hold_ofPaths _).pathCount_eq⟩

end ProfileBindings.Buckets
