import Mathlib.Data.Finset.Card
import Mathlib.Data.Finset.Dedup
import Mathlib.Data.List.ReduceOption
import ProfileBindings.Proofs.Check.Blame

/-!
# Stems that are taken

The functions of a profile are named by its stem, so that of the profiles with one stem only the first can keep
it. Each of the others is told which one that is. A document can be read from its first profile to its last: what
a profile is told depends on those in front of it, and nothing that follows changes it.

* `stemErrors` : the errors of a document about stems that are taken;
* `FirstWith` : the first of several profiles that has a stem;
* `Told` : what a profile is told about its stem.

Main statements:
* `stemErrors_concat` : another profile adds what it is told;
* `length_stemErrors_add_card` : there are as many errors as profiles that bring no new stem;
* `taken_stems_counted_and_blamed` : this, and what each profile of a document is told.
-/

namespace ProfileBindings.Check

variable {capacity : Nat} {before profiles : List Profile} {p : Profile}

/-- The cause is that the stem of a profile is taken. -/
def isStemTaken : Issue.Cause → Bool
  | .stemTaken _ _ => true
  | _ => false

/-- The errors of a document about stems that are taken, in their order. -/
def stemErrors (d : Document) (capacity : Nat) : List Issue :=
  (issues d capacity).filter fun i => isStemTaken i.cause

/-- The error of a profile whose stem is taken by one of those in front of it. -/
def stemError? (before : List Profile) (p : Profile) : Option Issue :=
  (before.find? (·.name.stem == p.name.stem)).map fun first => ⟨p.name, none, .stemTaken p.name.stem first.name⟩

/-- The first of several profiles that has a stem. -/
def FirstWith (stem : String) (profiles : List Profile) (first : Profile) : Prop :=
  ∃ front back, profiles = front ++ first :: back ∧ first.name.stem = stem ∧ ∀ q ∈ front, q.name.stem ≠ stem

/-- What a profile is told about its stem, if anything, by the profiles in front of it. -/
structure Told (before : List Profile) (p : Profile) (told : Option Issue) : Prop where
  isSome_iff : told.isSome = true ↔ ∃ q ∈ before, q.name.stem = p.name.stem
  blames : ∀ i ∈ told, i.profile = p.name ∧ i.subPath = none ∧ i.isError = true ∧
    ∃ first, FirstWith p.name.stem before first ∧ i.cause = .stemTaken p.name.stem first.name ∧
      i.cause.message =
        "verify function stem '" ++ p.name.stem ++ "' is already used by '" ++ first.name.path ++ "'"

/-! ## One profile -/

theorem find?_stem_eq_some_iff {stem : String} {first : Profile} :
    before.find? (·.name.stem == stem) = some first ↔ FirstWith stem before first := by
  rw [List.find?_eq_some_iff_append]
  constructor
  · rintro ⟨hstem, front, back, rfl, hfront⟩
    exact ⟨front, back, rfl, by simpa using hstem, fun q hq => by simpa using hfront q hq⟩
  · rintro ⟨front, back, rfl, hstem, hfront⟩
    exact ⟨by simpa using hstem, front, back, rfl, fun q hq => by simpa using hfront q hq⟩

theorem told_stemError? (before : List Profile) (p : Profile) : Told before p (stemError? before p) where
  isSome_iff := by simp [stemError?]
  blames := by
    intro i hi
    obtain ⟨first, hfirst, rfl⟩ := Option.map_eq_some_iff.mp hi
    exact ⟨rfl, rfl, rfl, first, find?_stem_eq_some_iff.mp hfirst, rfl, rfl⟩

/-- What else is wrong with the profile by itself is not about its stem. -/
theorem filter_ownIssues {holders : Holders} :
    (deviceIssues p ++ stemIssues holders p ++ emptinessIssues p).filter isStemTaken = stemIssues holders p := by
  have hdevice : (deviceIssues p).filter isStemTaken = [] := by
    unfold deviceIssues
    split <;> rfl
  have hstem : (stemIssues holders p).filter isStemTaken = stemIssues holders p := by
    unfold stemIssues
    split <;> rfl
  have hempty : (emptinessIssues p).filter isStemTaken = [] := by
    unfold emptinessIssues
    split
    · split <;> rfl
    · rfl
  rw [List.filter_append, List.filter_append, hdevice, hstem, hempty, List.nil_append, List.append_nil]

/-- Of all that is wrong with a profile only the check of its stem says that the stem is taken. -/
theorem filter_profileIssues :
    (profileIssues capacity (heldBy before) p).filter (fun i => isStemTaken i.cause) =
      (stemError? before p).toList := by
  have hown : ((deviceIssues p ++ stemIssues (heldBy before) p ++ emptinessIssues p).filter isStemTaken).map
      (⟨p.name, none, ·⟩) = (stemError? before p).toList := by
    rw [filter_ownIssues, stemIssues_heldBy, stemError?]
    cases before.find? (·.name.stem == p.name.stem) <;> rfl
  have hsubPaths : ∀ i ∈ p.subPaths.flatMap (fun s =>
      (subPathIssues p.subactionPaths s).map (fun cause => (⟨p.name, some s.path, cause⟩ : Issue))),
      ¬isStemTaken i.cause = true := by
    rintro ⟨profile, subPath, cause⟩ hi htaken
    cases cause with
    | stemTaken stem first =>
      obtain ⟨-, s, -, -, name, -, e, -, hcause⟩ := (mem_placed_subPathIssues_iff rfl).mp hi
      cases hcause
    | _ => cases htaken
  have hcapacity : ∀ i ∈ (capacityIssues capacity [] p.expand).map
      (fun found => (⟨p.name, some found.1.path, found.2⟩ : Issue)), ¬isStemTaken i.cause = true := by
    rintro ⟨profile, subPath, cause⟩ hi htaken
    obtain ⟨-, c, -, -, -, rfl⟩ := mem_placed_capacityIssues_iff.mp hi
    cases htaken
  unfold profileIssues
  rw [List.filter_append, List.filter_append, List.filter_eq_nil_iff.mpr hsubPaths,
    List.filter_eq_nil_iff.mpr hcapacity, List.append_nil, List.append_nil, List.filter_map]
  exact hown

/-! ## One profile after the other -/

theorem issuesFrom_append {after : List Profile} : issuesFrom capacity (heldBy before) (profiles ++ after) =
    issuesFrom capacity (heldBy before) profiles ++ issuesFrom capacity (heldBy (before ++ profiles)) after := by
  induction profiles generalizing before with
  | nil => simp [issuesFrom]
  | cons p profiles ih => simp [issuesFrom, ← heldBy_concat, ih]

/-- Another profile adds what it is told by those in front of it. -/
theorem stemErrors_concat : stemErrors ⟨profiles ++ [p]⟩ capacity =
    stemErrors ⟨profiles⟩ capacity ++ (stemError? profiles p).toList := by
  have hlast : issuesFrom capacity (heldBy profiles) [p] = profileIssues capacity (heldBy profiles) p := by
    simp [issuesFrom]
  rw [stemErrors, issues_eq, issuesFrom_append, List.nil_append, hlast, List.filter_append, filter_profileIssues]
  rfl

/-- There are as many errors as profiles that bring no new stem. -/
theorem length_stemErrors_add_card (profiles : List Profile) (capacity : Nat) :
    (stemErrors ⟨profiles⟩ capacity).length + (profiles.map (·.name.stem)).toFinset.card = profiles.length := by
  induction profiles using List.reverseRecOn with
  | nil => rfl
  | append_singleton profiles p ih =>
    have htold := (told_stemError? profiles p).isSome_iff
    have hmem : p.name.stem ∈ (profiles.map (·.name.stem)).toFinset ↔ (stemError? profiles p).isSome = true := by
      rw [htold]
      simp
    have hstems : ((profiles ++ [p]).map (·.name.stem)).toFinset =
        insert p.name.stem (profiles.map (·.name.stem)).toFinset := by
      ext stem
      simp
    rw [stemErrors_concat, hstems, List.length_append, List.length_append, List.length_singleton]
    cases hverdict : stemError? profiles p with
    | none =>
      -- The stem is new.
      have hnew : p.name.stem ∉ (profiles.map (·.name.stem)).toFinset := by simp [hmem, hverdict]
      rw [Finset.card_insert_of_notMem hnew, Option.toList_none, List.length_nil]
      omega
    | some i =>
      have hold : p.name.stem ∈ (profiles.map (·.name.stem)).toFinset := by simp [hmem, hverdict]
      rw [Finset.insert_eq_of_mem hold, Option.toList_some, List.length_singleton]
      omega

/-- Each profile is told something in its turn, or nothing. -/
theorem exists_told (profiles : List Profile) (capacity : Nat) :
    ∃ told : List (Option Issue), told.length = profiles.length ∧
      stemErrors ⟨profiles⟩ capacity = told.reduceOption ∧
      ∀ before p after, profiles = before ++ p :: after →
        ∃ verdict, told[before.length]? = some verdict ∧ Told before p verdict := by
  induction profiles using List.reverseRecOn with
  | nil => exact ⟨[], rfl, rfl, fun before p after h => by simp at h⟩
  | append_singleton profiles p ih =>
    obtain ⟨told, hlength, herrors, htold⟩ := ih
    refine ⟨told ++ [stemError? profiles p], by simp [hlength], ?_, ?_⟩
    · rw [stemErrors_concat, herrors, ← List.concat_eq_append, List.reduceOption_concat]
    · intro before q after hsplit
      rcases List.eq_nil_or_concat after with rfl | ⟨after, last, rfl⟩
      · -- The last profile is told something now.
        obtain ⟨rfl, hlast⟩ := List.append_inj' hsplit rfl
        obtain rfl := List.singleton_inj.mp hlast
        exact ⟨_, by rw [← hlength]; exact List.getElem?_concat_length, told_stemError? _ _⟩
      · -- What the others have been told stays.
        have hfront : profiles = before ++ q :: after := by
          rw [List.concat_eq_append, ← List.cons_append, ← List.append_assoc] at hsplit
          exact (List.append_inj' hsplit rfl).1
        obtain ⟨verdict, hverdict, hq⟩ := htold before q after hfront
        refine ⟨verdict, ?_, hq⟩
        rw [List.getElem?_append_left (List.getElem?_eq_some_iff.mp hverdict).1, hverdict]

/-- There are as many errors about stems as profiles less the stems that there are. Each profile is told in its turn
that its stem is taken, if it is: one in front of it has the stem, and the first of these is named. -/
theorem taken_stems_counted_and_blamed (d : Document) (capacity : Nat) :
    (stemErrors d capacity).length + (d.profiles.map (·.name.stem)).toFinset.card = d.profiles.length ∧
    ∃ told : List (Option Issue), told.length = d.profiles.length ∧
      stemErrors d capacity = told.reduceOption ∧
      ∀ before p after, d.profiles = before ++ p :: after →
        ∃ verdict, told[before.length]? = some verdict ∧ Told before p verdict :=
  ⟨length_stemErrors_add_card d.profiles capacity, exists_told d.profiles capacity⟩

/-! ## Two stems for five profiles -/

/-- A profile of which only the name matters. -/
def named (name : ProfileName) : Profile := ⟨name, "", "", "", [], []⟩

def firstHand : Profile := named ⟨["ext", "hand_ext"], by decide, by decide⟩

def secondHand : Profile := named ⟨["ext_hand", "ext"], by decide, by decide⟩

def thirdHand : Profile := named ⟨["ext", "hand", "ext"], by decide, by decide⟩

def firstEyes : Profile := named ⟨["ext", "eye_gaze"], by decide, by decide⟩

def secondEyes : Profile := named ⟨["ext_eye", "gaze"], by decide, by decide⟩

/-- Hands and eyes by turns. -/
def handsAndEyes : Document := ⟨[firstHand, firstEyes, secondHand, secondEyes, thirdHand]⟩

/-- Three of the five are told that their stems are taken, the last one by the first of all. -/
theorem handsAndEyes_share_stems :
    (stemErrors handsAndEyes 8).length = 3 ∧
      ⟨thirdHand.name, none, .stemTaken "ext_hand_ext" firstHand.name⟩ ∈ stemErrors handsAndEyes 8 := by
  obtain ⟨hcount, told, -, herrors, htold⟩ := taken_stems_counted_and_blamed handsAndEyes 8
  have hstems : (handsAndEyes.profiles.map (·.name.stem)).toFinset.card = 2 := by decide
  refine ⟨by rw [hstems] at hcount; exact Nat.add_right_cancel hcount, ?_⟩
  obtain ⟨verdict, hverdict, hhand⟩ := htold [firstHand, firstEyes, secondHand, secondEyes] thirdHand [] rfl
  obtain ⟨⟨profile, subPath, cause⟩, rfl⟩ := Option.isSome_iff_exists.mp
    (hhand.isSome_iff.mpr ⟨firstHand, by simp, by decide⟩)
  obtain ⟨rfl, rfl, -, first, hfirst, rfl, -⟩ := hhand.blames _ rfl
  have hsame : first = firstHand := (Option.some.inj (find?_stem_eq_some_iff.mpr hfirst)).symm
  rw [herrors, List.reduceOption_mem_iff, ← hsame]
  exact List.mem_of_getElem? hverdict

end ProfileBindings.Check
