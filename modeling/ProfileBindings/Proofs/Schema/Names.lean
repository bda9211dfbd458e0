import ProfileBindings.Proofs.Schema.Reading

/-!
# Names and the patterns of the schema

Names of profiles and identifiers are looked at twice: by the patterns of the schema, and by readers that know
no patterns. Both accept the same texts. What a profile is called elsewhere is made of the segments of its
path, and needs no escape wherever it is pasted.

* `ProfileName.Derives` : what is made of the segments of a path.

Main statement: `ProfileName.validators_agree_and_derive`.
-/

namespace ProfileBindings

namespace ProfileName

variable {name : ProfileName} {s : String}

/-! ## Paths -/

theorem isProfilePath_path (name : ProfileName) : Schema.IsProfilePath name.path := by
  refine ⟨name.segments, name.two_le, fun t ht => ?_, rfl⟩
  have hrun : Text.isWordRun t.toList = true := name.wordRuns t ht
  simpa [Text.isWordRun, Schema.IsRun] using hrun

/-- A text is read as a name exactly if it matches the pattern of the keys. -/
theorem exists_parse_iff : (∃ name, parse s = .ok name) ↔ Schema.profilePath.occursIn s = true := by
  rw [Schema.profilePath_iff]
  constructor
  · rintro ⟨name, hname⟩
    rw [← parse_eq_ok_iff.mp hname]
    exact name.isProfilePath_path
  · intro h
    obtain ⟨name, hpath⟩ := exists_of_isProfilePath h
    exact ⟨name, parse_eq_ok_iff.mpr hpath⟩

/-- Between the slashes of a path stand the two parts of its beginning, of which the first is empty, and then
the segments. -/
theorem segmentsOf_path (name : ProfileName) :
    segmentsOf name.path.toList = "" :: "interaction_profiles" :: name.segments := by
  have hroot : name.path.toList =
      "/interaction_profiles".toList ++ '/' :: ("/".intercalate name.segments).toList := by
    rw [path, root, String.toList_append]
    rfl
  rw [segmentsOf, hroot, Text.segments_append_of_sep (by decide), List.map_append]
  exact congrArg _ name.segmentsOf_intercalate

/-- A stem is the path behind its beginning, with underscores for the slashes. -/
theorem toList_stem (name : ProfileName) :
    name.stem.toList =
      ("/".intercalate name.segments).toList.map fun c => if c = '/' then '_' else c := by
  have hkeep : ∀ t ∈ name.segments, t.toList.map (fun c => if c = '/' then '_' else c) = t.toList := by
    intro t ht
    refine (List.map_congr_left fun c hc => if_neg ?_).trans t.toList.map_id
    rintro rfl
    exact absurd (isWordChar_of_mem_segment ht hc) (by decide)
  obtain ⟨first, rest, hsegments⟩ := List.exists_cons_of_ne_nil (List.ne_nil_of_mem name.device_mem_segments)
  rw [hsegments] at hkeep
  obtain ⟨hfirst, hrest⟩ := List.forall_mem_cons.mp hkeep
  rw [stem, hsegments, Text.toList_intercalate_cons, Text.toList_intercalate_cons, List.map_append, hfirst,
    List.map_flatMap]
  refine congrArg _ (List.flatMap_congr fun t ht => ?_)
  rw [List.map_append, hrest t ht]
  rfl

/-! ## Names made of the segments -/

/-- What is made of the segments of a path. -/
structure Derives (name : ProfileName) (segments : List String) : Prop where
  stem : name.stem = "_".intercalate segments
  vendor : segments[segments.length - 2]? = some name.vendor
  device : segments[segments.length - 1]? = some name.device
  escape_stem : C.Literal.escape name.stem = name.stem
  escape_inputProfilePath : C.Literal.escape name.steamvrInputProfilePath = name.steamvrInputProfilePath
  escape_controllerType : C.Literal.escape name.steamvrControllerType = name.steamvrControllerType
  functionName : ∀ before, Text.isIdentifier before = true →
    Text.isIdentifier (before ++ name.stem ++ "_subpath") = true

theorem derives_segments (name : ProfileName) : name.Derives name.segments where
  stem := rfl
  vendor := by
    rw [name.segments_eq]
    simp
  device := by
    rw [name.segments_eq]
    simp
  escape_stem := C.Literal.escape_of_isPlain fun _ hc => C.Literal.isPlain_of_isWordChar (isWordChar_of_mem_stem hc)
  escape_inputProfilePath := C.Literal.escape_of_isPlain name.isPlain_steamvr.1
  escape_controllerType := C.Literal.escape_of_isPlain name.isPlain_steamvr.2
  functionName _ hbefore := name.isIdentifier_append_stem hbefore (by decide)

/-- The readers of names accept what the patterns of the schema match. Behind the two parts of its beginning, a
path that is read as a name has the two or more segments that all other names are made of. -/
theorem validators_agree_and_derive :
    Schema.IsWrittenForm "^/interaction_profiles/[A-Za-z0-9_]+(/[A-Za-z0-9_]+)+$" Schema.profilePath ∧
    Schema.IsWrittenForm "^[A-Za-z_][A-Za-z0-9_]*$" Schema.identifier ∧
    (∀ s, (∃ name, parse s = .ok name) ↔ Schema.profilePath.occursIn s = true) ∧
    (∀ s, Text.isIdentifier s = true ↔ Schema.identifier.occursIn s = true) ∧
    ∀ s name, parse s = .ok name → ∃ segments,
      segmentsOf s.toList = "" :: "interaction_profiles" :: segments ∧ 2 ≤ segments.length ∧
      name.stem.toList = (s.toList.drop root.length).map (fun c => if c = '/' then '_' else c) ∧
      name.Derives segments := by
  refine ⟨Schema.isWrittenForm_profilePath, Schema.isWrittenForm_identifier, fun _ => exists_parse_iff,
    fun _ => Schema.identifier_iff.symm, ?_⟩
  intro s name hname
  obtain rfl := parse_eq_ok_iff.mp hname
  have hdrop : name.path.toList.drop root.length = ("/".intercalate name.segments).toList := by
    rw [path, String.toList_append, ← String.length_toList, List.drop_left]
  exact ⟨name.segments, name.segmentsOf_path, name.two_le, hdrop ▸ name.toList_stem, name.derives_segments⟩

/-- A path of three segments, one of which has an underscore in it. -/
theorem parse_three_segments :
    ∃ name segments, parse "/interaction_profiles/ext/htc/vive_wand" = .ok name ∧
      segmentsOf "/interaction_profiles/ext/htc/vive_wand".toList = "" :: "interaction_profiles" :: segments ∧
      name.Derives segments ∧ name.stem = "ext_htc_vive_wand" := by
  obtain ⟨-, -, -, -, hderives⟩ := validators_agree_and_derive
  have hname : parse "/interaction_profiles/ext/htc/vive_wand" =
      .ok ⟨["ext", "htc", "vive_wand"], by decide, by decide⟩ := by decide
  obtain ⟨segments, hpieces, -, -, hmade⟩ := hderives _ _ hname
  exact ⟨_, segments, hname, hpieces, hmade, by decide⟩

end ProfileName

end ProfileBindings
