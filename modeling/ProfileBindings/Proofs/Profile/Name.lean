import ProfileBindings.Proofs.C.Literal
import ProfileBindings.Proofs.Text.Segments
import ProfileBindings.Profile.Name

/-!
# Names made of the segments of a profile

A profile name holds nothing but word characters, and so do the names that are made of it, apart from a dot
in the name of a file.

Main statements:
* `ProfileName.isIdentifier_append_stem` : a stem can be put into the middle of an identifier;
* `ProfileName.isPlain_steamvr` : the names for SteamVR need no escape in a literal;
* `ProfileName.parse_eq_ok_iff` : a path is read as the name that it is the path of.
-/

namespace ProfileBindings

theorem Text.isIdentifier_append {s t : String} (hs : Text.isIdentifier s = true)
    (ht : ∀ c ∈ t.toList, Text.isWordChar c = true) : Text.isIdentifier (s ++ t) = true := by
  obtain ⟨c, cs, hname, hc, hcs⟩ := C.exists_cons_of_isIdentifier hs
  have hall : (cs ++ t.toList).all Text.isWordChar = true := by
    rw [List.all_append, hcs, Bool.true_and, List.all_eq_true]
    exact ht
  simp [Text.isIdentifier, hname, hc, hall]

theorem Text.dropPrefix?_append (start rest : List Char) :
    Text.dropPrefix? start (start ++ rest) = some rest := by
  induction start with
  | nil => rfl
  | cons c start ih => simp [Text.dropPrefix?, ih]

theorem Text.eq_append_of_dropPrefix? {start cs rest : List Char} (h : Text.dropPrefix? start cs = some rest) :
    cs = start ++ rest := by
  induction start generalizing cs with
  | nil => exact Option.some.inj h
  | cons p start ih =>
    cases cs with
    | nil => simp [Text.dropPrefix?] at h
    | cons c cs =>
      rw [Text.dropPrefix?] at h
      split at h
      · next hc =>
        obtain rfl : p = c := by simpa using hc
        rw [List.cons_append, ← ih h]
      · contradiction

namespace ProfileName

variable {name : ProfileName} {c : Char}

theorem isWordChar_of_mem_segment {s : String} (hs : s ∈ name.segments) (hc : c ∈ s.toList) :
    Text.isWordChar c = true := by
  have hrun : Text.isWordRun s.toList = true := name.wordRuns s hs
  rw [Text.isWordRun, Bool.and_eq_true] at hrun
  exact List.all_eq_true.mp hrun.2 c hc

theorem vendor_mem_segments (name : ProfileName) : name.vendor ∈ name.segments :=
  List.dropLast_subset _ (List.getLast_mem _)

theorem device_mem_segments (name : ProfileName) : name.device ∈ name.segments := List.getLast_mem _

/-- The vendor and the device end the segments. -/
theorem segments_eq (name : ProfileName) :
    name.segments = name.segments.dropLast.dropLast ++ [name.vendor, name.device] := by
  have hinner : name.segments.dropLast = name.segments.dropLast.dropLast ++ [name.vendor] :=
    (List.dropLast_append_getLast _).symm
  have hall : name.segments = name.segments.dropLast ++ [name.device] :=
    (List.dropLast_append_getLast _).symm
  calc name.segments = name.segments.dropLast ++ [name.device] := hall
    _ = name.segments.dropLast.dropLast ++ [name.vendor] ++ [name.device] := by rw [← hinner]
    _ = name.segments.dropLast.dropLast ++ [name.vendor, name.device] := by simp

theorem isWordChar_of_mem_intercalate {l : List String}
    (hl : ∀ s ∈ l, ∀ c ∈ s.toList, Text.isWordChar c = true) (hc : c ∈ ("_".intercalate l).toList) :
    Text.isWordChar c = true := by
  induction l with
  | nil => simp at hc
  | cons s l ih =>
    cases l with
    | nil => exact hl s List.mem_cons_self c (by simpa using hc)
    | cons t l =>
      rw [String.intercalate_cons_cons, String.toList_append, String.toList_append, List.mem_append,
        List.mem_append] at hc
      -- The character is in the first segment, or it is the underscore, or it is behind it.
      rcases hc with (hc | hc) | hc
      · exact hl s List.mem_cons_self c hc
      · obtain rfl : c = '_' := by simpa using hc
        decide
      · exact ih (fun u hu => hl u (List.mem_cons_of_mem s hu)) hc

theorem isWordChar_of_mem_stem (hc : c ∈ name.stem.toList) : Text.isWordChar c = true :=
  isWordChar_of_mem_intercalate (fun _ hs _ hc => isWordChar_of_mem_segment hs hc) hc

/-- A stem can be put into the middle of an identifier. -/
theorem isIdentifier_append_stem {before after : String} (hbefore : Text.isIdentifier before = true)
    (hafter : after.toList.all Text.isWordChar = true) (name : ProfileName) :
    Text.isIdentifier (before ++ name.stem ++ after) = true := by
  have hstem : Text.isIdentifier (before ++ name.stem) = true :=
    Text.isIdentifier_append hbefore fun _ hc => isWordChar_of_mem_stem hc
  exact Text.isIdentifier_append hstem (List.all_eq_true.mp hafter)

/-- The names for SteamVR need no escape in a literal. -/
theorem isPlain_steamvr (name : ProfileName) :
    (∀ c ∈ name.steamvrInputProfilePath.toList, C.Literal.isPlain c = true) ∧
      ∀ c ∈ name.steamvrControllerType.toList, C.Literal.isPlain c = true := by
  have hvendor : ∀ c ∈ name.vendor.toList, C.Literal.isPlain c = true := fun c hc =>
    C.Literal.isPlain_of_isWordChar (isWordChar_of_mem_segment name.vendor_mem_segments hc)
  have hdevice : ∀ c ∈ name.device.toList, C.Literal.isPlain c = true := fun c hc =>
    C.Literal.isPlain_of_isWordChar (isWordChar_of_mem_segment name.device_mem_segments hc)
  have hword : ∀ c ∈ "_".toList, C.Literal.isPlain c = true := fun _ hc =>
    C.Literal.isPlain_of_mem_literal rfl (by decide) hc
  have hfile : ∀ c ∈ "_profile.json".toList, C.Literal.isPlain c = true := fun _ hc =>
    C.Literal.isPlain_of_mem_literal rfl (by decide) hc
  have htype : ∀ c ∈ "monado_".toList, C.Literal.isPlain c = true := fun _ hc =>
    C.Literal.isPlain_of_mem_literal rfl (by decide) hc
  constructor
  · intro c hc
    simp only [steamvrInputProfilePath, String.toList_append, List.mem_append] at hc
    rcases hc with ((hc | hc) | hc) | hc
    · exact hvendor c hc
    · exact hword c hc
    · exact hdevice c hc
    · exact hfile c hc
  · intro c hc
    simp only [steamvrControllerType, String.toList_append, List.mem_append] at hc
    rcases hc with ((hc | hc) | hc) | hc
    · exact htype c hc
    · exact hvendor c hc
    · exact hword c hc
    · exact hdevice c hc

/-! ## Reading a path -/

/-- The segments of a path are those that it was made of. -/
theorem segmentsOf_intercalate (name : ProfileName) :
    segmentsOf ("/".intercalate name.segments).toList = name.segments := by
  have hne : name.segments ≠ [] := List.ne_nil_of_mem name.device_mem_segments
  refine Text.segments_intercalate (x := '/') rfl (by decide) hne fun s hs c hc => ?_
  have hslash : c ≠ '/' := by
    rintro rfl
    exact absurd (isWordChar_of_mem_segment hs hc) (by decide)
  simpa using hslash

/-- A path is read as the name that it is the path of. -/
theorem parse_path (name : ProfileName) : parse name.path = .ok name := by
  have hsegments := name.segmentsOf_intercalate
  have hnone : name.segments.find? (fun s => !Text.isWordRun s.toList) = none := by
    rw [List.find?_eq_none]
    intro s hs
    simp [name.wordRuns s hs]
  unfold parse
  rw [path, String.toList_append, Text.dropPrefix?_append]
  obtain ⟨segments, two_le, wordRuns⟩ := name
  dsimp only at hsegments hnone ⊢
  rw [dif_pos (by rw [hsegments]; exact two_le)]
  split
  · next hfound =>
    rw [hsegments, hnone] at hfound
    contradiction
  · simp only [Except.ok.injEq, mk.injEq]
    exact hsegments

/-- A text is the path of the name that it is read as. -/
theorem path_of_parse {s : String} (h : parse s = .ok name) : name.path = s := by
  unfold parse at h
  split at h
  · contradiction
  · next rest hrest =>
    dsimp only at h
    split at h
    · split at h
      · contradiction
      · obtain rfl := Except.ok.inj h
        apply String.toList_injective
        have hjoined : ("/".intercalate (segmentsOf rest)).toList = rest := Text.intercalate_segments (by rfl) rest
        rw [path, String.toList_append, hjoined, ← Text.eq_append_of_dropPrefix? hrest]
    · contradiction

/-- A text is read as a name exactly if it is its path. -/
theorem parse_eq_ok_iff {s : String} : parse s = .ok name ↔ name.path = s := by
  constructor
  · exact path_of_parse
  · rintro rfl
    exact name.parse_path

end ProfileName

end ProfileBindings
