import ProfileBindings.Proofs.Check.Blame
import ProfileBindings.Proofs.Schema.Reading

/-!
# The model of an accepted document

What stands behind the schema relies on it: that a document which was accepted has a model, and that names,
paths and identifiers in the model are what the generated source needs. Nothing of this is looked at again.

* `Profile.Shaped.pairwise_expand` : no two components of a profile are the same;
* `Profile.Shaped.isPathChar_of_mem_paths` : paths are made of small letters, digits, underscores and slashes;
* `no_identifier_issue` : words that have to be identifiers are.

Main statement: `accepted_has_model`.
-/

namespace ProfileBindings

open Schema

/-! ## Characters of paths -/

/-- Small letters, digits, the underscore and the slash. -/
def Schema.isPathChar (c : Char) : Bool := isSmallWordChar c || c == '/'

variable {s : String} {c : Char}

theorem isPathChar_of_isRun (h : IsRun isSmallWordChar s) (hc : c ∈ s.toList) : isPathChar c = true := by
  rw [isPathChar, h.2 c hc, Bool.true_or]

theorem isPathChar_of_isSubPathPath (h : IsSubPathPath s) (hc : c ∈ s.toList) : isPathChar c = true := by
  obtain ⟨steps, -, hruns, rfl⟩ := h
  rw [toList_slashed, List.mem_flatMap] at hc
  obtain ⟨step, hstep, hc⟩ := hc
  rcases List.mem_append.mp hc with hslash | hrun
  · obtain rfl : c = '/' := by simpa using hslash
    rfl
  · exact isPathChar_of_isRun (hruns step hstep) hrun

theorem isPathChar_of_mem_literal {l : List Char} (hs : s = String.ofList l)
    (hl : l.all isPathChar = true) (hc : c ∈ s.toList) : isPathChar c = true := by
  rw [hs, String.toList_ofList] at hc
  exact List.all_eq_true.mp hl c hc

theorem isPathChar_of_isSubactionPath (h : IsSubactionPath s) (hc : c ∈ s.toList) : isPathChar c = true := by
  obtain ⟨path, hpath, rfl⟩ := h
  rw [String.toList_append, List.mem_append] at hc
  rcases hc with huser | hc
  · exact isPathChar_of_mem_literal (l := ['/', 'u', 's', 'e', 'r']) rfl (by decide) huser
  · exact isPathChar_of_isSubPathPath hpath hc

theorem isPlain_of_isPathChar (h : isPathChar c = true) : C.Literal.isPlain c = true := by
  rw [isPathChar, Bool.or_eq_true] at h
  rcases h with hword | hslash
  · refine C.Literal.isPlain_of_isWordChar ?_
    rw [isSmallWordChar, Bool.or_eq_true, Bool.or_eq_true] at hword
    rcases hword with (hlower | hdigit) | hunderscore
    · simp [Text.isWordChar, CharSet.isAlpha_eq, hlower]
    · simp [Text.isWordChar, hdigit]
    · simp [Text.isWordChar, hunderscore]
  · obtain rfl := eq_of_beq hslash
    decide

namespace Profile.Shaped

variable {p : Profile}

/-- The paths of a component are made of characters that need no escape. -/
theorem isPathChar_of_mem_paths (h : p.Shaped) {comp : Component} (hcomp : comp ∈ p.expand) {path : String}
    (hpath : path ∈ comp.paths) (hc : c ∈ path.toList) : isPathChar c = true := by
  obtain ⟨hsubaction, hsubPath, -, hname⟩ := mem_expand.mp hcomp
  have hshaped : comp.subPath.Shaped := h.subPaths _ hsubPath
  have hbase : ∀ d ∈ comp.basePath.toList, isPathChar d = true := by
    intro d hd
    rw [Component.basePath, String.toList_append, List.mem_append] at hd
    rcases hd with hd | hd
    · exact isPathChar_of_isSubactionPath (h.subactionPaths _ hsubaction) hd
    · exact isPathChar_of_isSubPathPath hshaped.path hd
  have hbehind : ∀ after : String, (∀ d ∈ after.toList, isPathChar d = true) →
      ∀ d ∈ (comp.basePath ++ after).toList, isPathChar d = true := by
    intro after hafter d hd
    rw [String.toList_append, List.mem_append] at hd
    exact hd.elim (hbase d) (hafter d)
  rw [Component.paths] at hpath
  split at hpath
  · simp only [List.mem_cons, List.not_mem_nil, or_false] at hpath
    rcases hpath with rfl | rfl | rfl
    · exact hbehind "/x" (fun d hd => isPathChar_of_mem_literal (l := ['/', 'x']) rfl (by decide) hd) c hc
    · exact hbehind "/y" (fun d hd => isPathChar_of_mem_literal (l := ['/', 'y']) rfl (by decide) hd) c hc
    · exact hbase c hc
  · simp only [List.mem_cons, List.not_mem_nil, or_false] at hpath
    rcases hpath with rfl | rfl
    · rw [String.append_assoc] at hc
      refine hbehind ("/" ++ comp.name) (fun d hd => ?_) c hc
      rw [String.toList_append, List.mem_append] at hd
      rcases hd with hslash | hd
      · exact isPathChar_of_mem_literal (l := ['/']) rfl (by decide) hslash
      · exact isPathChar_of_isRun (hshaped.names _ hname) hd
    · exact hbase c hc

/-- No two components of a profile have one subaction path, one sub-path and one name. -/
theorem pairwise_expand (h : p.Shaped) : p.expand.Pairwise fun a b =>
    ¬(a.subaction = b.subaction ∧ a.subPath.path = b.subPath.path ∧ a.name = b.name) := by
  rw [expand, List.pairwise_flatMap]
  constructor
  · intro subaction _
    rw [List.pairwise_flatMap]
    constructor
    · intro s hs
      have hmem : s ∈ p.subPaths := List.mem_of_mem_filter hs
      rw [List.pairwise_map]
      exact (h.subPaths s hmem).nodup.imp fun hne heq => hne heq.2.2
    · have hpaths : (p.subPathsUnder subaction).Pairwise fun a b => a.path ≠ b.path :=
        (List.pairwise_map.mp h.paths).filter _
      refine hpaths.imp fun hne x hx y hy heq => ?_
      obtain ⟨_, -, rfl⟩ := List.mem_map.mp hx
      obtain ⟨_, -, rfl⟩ := List.mem_map.mp hy
      exact hne heq.2.1
  · refine h.nodup.imp fun hne x hx y hy heq => ?_
    simp only [List.mem_flatMap, List.mem_map] at hx hy
    obtain ⟨_, -, _, -, rfl⟩ := hx
    obtain ⟨_, -, _, -, rfl⟩ := hy
    exact hne heq.1

end Profile.Shaped

/-! ## Issues -/

/-- The issue is about a word that is no identifier. -/
def Issue.Cause.IsNoIdentifier : Issue.Cause → Prop
  | .deviceNoIdentifier _ => True
  | .bindingNoIdentifier _ _ => True
  | _ => False

/-- Where all profiles are shaped as the grammar says, all words that have to be identifiers are. -/
theorem no_identifier_issue {d : Document} (h : ∀ p ∈ d.profiles, p.Shaped) {capacity : Nat} {i : Issue}
    (hi : i ∈ Check.issues d capacity) : ¬i.cause.IsNoIdentifier := by
  intro hcause
  have herror : i.isError = true := by
    cases hc : i.cause <;>
      simp_all [Issue.Cause.IsNoIdentifier, Issue.isError, Issue.severity, Issue.Cause.severity]
  obtain ⟨before, p, after, s, hd, hbreaks, -⟩ := Check.mem_issues_iff.mp ⟨hi, herror⟩
  have hshaped : p.Shaped := h p (by simp [hd])
  generalize i.cause = cause at hbreaks hcause
  cases hbreaks with
  | device hidentifier => simp [hshaped.device] at hidentifier
  | binding hs hname hbound hmisbinds =>
    have hidentifier := (hshaped.subPaths _ hs).identifiers _ _ hbound
    cases hmisbinds with
    | noIdentifier hnot => simp [hidentifier] at hnot
    | _ => exact hcause
  | _ => exact hcause

/-! ## Accepted documents -/

/-- A document that the built-in schema accepts has a model, which has what the generated source relies on. -/
theorem accepted_has_model (v : Json) (hkeys : v.WellKeyed) (haccepted : Validator.builtIn.check v = .ok ()) :
    ∃ d profiles, Document.read v = .ok d ∧ d.profiles ≠ [] ∧
      v.get? "profiles" = some (.obj profiles) ∧
      d.profiles.map (·.name.path) = Json.Fields.keys profiles ∧
      List.Forall₂ Profile.StandsUnder d.profiles profiles ∧
      (∀ p ∈ d.profiles,
        (p.expand.Pairwise fun a b =>
          ¬(a.subaction = b.subaction ∧ a.subPath.path = b.subPath.path ∧ a.name = b.name)) ∧
        ∀ c ∈ p.expand, ∀ path ∈ c.paths,
          (∀ ch ∈ path.toList, isPathChar ch = true) ∧ C.Literal.escape path = path) ∧
      ∀ capacity, ∀ i ∈ Check.issues d capacity, ¬i.cause.IsNoIdentifier := by
  have hdocument : IsDocument v := violations_bindings_eq_nil_iff.mp (check_builtIn_eq_ok_iff.mp haccepted)
  obtain ⟨d, profiles, hread, hget, hsome, hshaped, hstands⟩ := Document.read_of_isDocument hkeys hdocument
  have hne : d.profiles ≠ [] := by
    intro hnil
    rw [hnil, List.forall₂_nil_left_iff] at hstands
    exact hsome hstands
  refine ⟨d, profiles, hread, hne, hget, map_eq_keys_of_forall₂ (hstands.imp fun _ _ h => h.1), hstands, ?_,
    fun _ _ => no_identifier_issue hshaped⟩
  intro p hp
  refine ⟨(hshaped p hp).pairwise_expand, fun c hc path hpath => ?_⟩
  have hchars : ∀ ch ∈ path.toList, isPathChar ch = true := fun ch =>
    (hshaped p hp).isPathChar_of_mem_paths hc hpath
  exact ⟨hchars, C.Literal.escape_of_isPlain fun ch hch => isPlain_of_isPathChar (hchars ch hch)⟩

/-- A document as a value: one controller with a button. -/
def simpleValue : Json :=
  .obj [("profiles", .obj [("/interaction_profiles/khr/simple_controller", .obj [
    ("title", .str "Simple Controller"),
    ("type", .str "simple"),
    ("monado_device", .str "XRT_DEVICE_SIMPLE_CONTROLLER"),
    ("subaction_paths", .arr [.str "/user/hand/left", .str "/user/hand/right"]),
    ("subpaths", .obj [("/input/select", .obj [
      ("type", .str "button"),
      ("localized_name", .str "Select"),
      ("components", .arr [.str "click"]),
      ("monado_bindings", .obj [("click", .str "XRT_INPUT_SIMPLE_SELECT_CLICK")])])])])])]

theorem wellKeyed_simpleValue : simpleValue.WellKeyed := by
  simp [simpleValue, Json.WellKeyed, Json.MembersWellKeyed, Json.ItemsWellKeyed, Json.Fields.keys]

theorem violations_simpleValue : bindings.violations simpleValue = [] := by
  rw [← List.isEmpty_iff]
  decide +kernel

theorem accepted_simpleValue :
    simpleValue.WellKeyed ∧ Validator.builtIn.check simpleValue = .ok () ∧
      ∃ d, Document.read simpleValue = .ok d ∧
        d.profiles.map (·.name.path) = ["/interaction_profiles/khr/simple_controller"] := by
  have haccepted : Validator.builtIn.check simpleValue = .ok () :=
    check_builtIn_eq_ok_iff.mpr violations_simpleValue
  obtain ⟨d, profiles, hread, -, hget, hnames, -⟩ :=
    accepted_has_model simpleValue wellKeyed_simpleValue haccepted
  have hkeys : Json.Fields.keys profiles = ["/interaction_profiles/khr/simple_controller"] := by
    obtain rfl := Json.obj.inj (Option.some.inj hget)
    rfl
  exact ⟨wellKeyed_simpleValue, haccepted, d, hread, hnames.trans hkeys⟩

end ProfileBindings
