import ProfileBindings.Proofs.Json.Keys
import ProfileBindings.Proofs.Schema.Meaning
import ProfileBindings.Proofs.Schema.Patterns
import ProfileBindings.Schema.Validator

/-!
# The grammar of bindings documents

What a document looks like, part by part: which members an object has, and what stands there. Members that
are not mentioned may be there, too, and hold anything.

* `IsText`, `IsTextList`, `IsTable` : values of one kind;
* `Has` : an object has a member of some kind;
* `SubPathGrammar`, `ProfileGrammar`, `IsDocument` : the parts of a document, from the inside out.

Main statement: `builtIn_accepts_iff`, the built-in schema accepts the documents of this grammar and no
other value.
-/

namespace ProfileBindings.Schema

variable {named : Naming} {v : Json} {fields : Json.Fields}

/-! ## Values -/

/-- A text of some kind. -/
def IsText (kind : String → Prop) (v : Json) : Prop := ∃ s, v = .str s ∧ kind s

/-- A text that is not empty. -/
def IsSomeText : Json → Prop := IsText (· ≠ "")

/-- An identifier. -/
def IsIdentifier : Json → Prop := IsText fun s => Text.isIdentifier s = true

/-- A list of texts of some kind, none of them twice. -/
def IsTextList (kind : String → Prop) (v : Json) : Prop :=
  ∃ words : List String, v = .arr (words.map .str) ∧ words.Nodup ∧ ∀ word ∈ words, kind word

/-- An object whose keys and values are of some kind. -/
def IsTable (key : String → Prop) (value : Json → Prop) (v : Json) : Prop :=
  ∃ fields, v = .obj fields ∧ ∀ field ∈ fields, key field.1 ∧ value field.2

/-- An object whose members are of some kind. -/
def IsRecord (kind : Json.Fields → Prop) (v : Json) : Prop := ∃ fields, v = .obj fields ∧ kind fields

/-- A member is there, and its value is of some kind. -/
def Has (fields : Json.Fields) (name : String) (kind : Json → Prop) : Prop :=
  ∃ v, fields.get? name = some v ∧ kind v

/-- If a member is there, its value is of some kind. -/
def MayHave (fields : Json.Fields) (name : String) (kind : Json → Prop) : Prop :=
  ∀ v, fields.get? name = some v → kind v

/-! ## Parts of a document -/

/-- What a component is bound to: an identifier, or nothing. -/
def IsBinding (v : Json) : Prop := v = .null ∨ IsIdentifier v

/-- The members of a sub-path. -/
@[mk_iff]
structure SubPathGrammar (fields : Json.Fields) : Prop where
  kind : Has fields "type" IsSomeText
  localizedName : Has fields "localized_name" IsSomeText
  components : Has fields "components" fun v => IsTextList (IsRun isSmallWordChar) v ∧ v ≠ .arr []
  bindings : Has fields "monado_bindings" (IsTable (fun _ => True) IsBinding)
  side : MayHave fields "side" IsSomeText

/-- The members of a profile. -/
@[mk_iff]
structure ProfileGrammar (fields : Json.Fields) : Prop where
  title : Has fields "title" IsSomeText
  deviceType : Has fields "type" IsSomeText
  device : Has fields "monado_device" IsIdentifier
  subactionPaths : Has fields "subaction_paths" (IsTextList IsSubactionPath)
  subPaths : Has fields "subpaths" (IsTable IsSubPathPath (IsRecord SubPathGrammar))

/-- A document: an object with profiles, at least one. -/
def IsDocument : Json → Prop :=
  IsRecord fun fields => Has fields "profiles" fun v =>
    IsTable IsProfilePath (IsRecord ProfileGrammar) v ∧ v ≠ .obj []

/-! ## What the parts of the schema mean -/

theorem has_iff {name : String} {kind : Json → Prop} :
    Has fields name kind ↔ name ∈ Json.Fields.keys fields ∧ MayHave fields name kind := by
  rw [Has, MayHave, Json.Fields.mem_keys_iff]
  constructor
  · rintro ⟨v, hv, hkind⟩
    exact ⟨⟨v, hv⟩, fun w hw => Option.some.inj (hv.symm.trans hw) ▸ hkind⟩
  · rintro ⟨⟨v, hv⟩, hkind⟩
    exact ⟨v, hv, hkind v hv⟩

theorem meets_someText_iff : Meets named someText v ↔ IsSomeText v := by
  cases v <;>
    simp [someText, Meets, MeetsAll, MeetsDemand, ValueType.covers, IsSomeText, IsText, Nat.one_le_iff_ne_zero]

theorem meets_textLike_iff {written : String} {p : Pattern} :
    Meets named (textLike written p) v ↔ IsText (fun s => p.occursIn s = true) v := by
  cases v <;> simp [textLike, Meets, MeetsAll, MeetsDemand, ValueType.covers, IsText]

theorem meets_nameLike_iff {written : String} {p : Pattern} {name : String} :
    Meets named (nameLike written p) (.str name) ↔ p.occursIn name = true := by
  simp [nameLike, Meets, MeetsAll, MeetsDemand]

theorem alike_str (signedZeros : Bool) (a b : String) :
    Json.alike signedZeros (.str a) (.str b) = (a == b) := by rw [Json.alike]

theorem noRepeats_map_str (signedZeros : Bool) (words : List String) :
    Json.noRepeats signedZeros (words.map .str) = true ↔ words.Nodup := by
  induction words with
  | nil => simp [Json.noRepeats]
  | cons word words ih =>
    have hword : (∀ other ∈ words, ¬word = other) ↔ word ∉ words :=
      ⟨fun h hmem => h word hmem rfl, fun h other hother heq => h (heq ▸ hother)⟩
    rw [List.map_cons, Json.noRepeats, Bool.and_eq_true, ih, List.nodup_cons, ← hword]
    simp [alike_str]

theorem isTextList_iff {kind : String → Prop} {items : List Json} :
    IsTextList kind (.arr items) ↔ (∀ item ∈ items, IsText kind item) ∧ Json.allDistinct items = true := by
  constructor
  · rintro ⟨words, hitems, hnodup, hkind⟩
    obtain rfl := Json.arr.inj hitems
    refine ⟨List.forall_mem_map.mpr fun word hword => ⟨word, rfl, hkind word hword⟩, ?_⟩
    exact (noRepeats_map_str _ words).mpr hnodup
  · rintro ⟨hitems, hdistinct⟩
    have hwords : items ∈ Set.range (List.map Json.str) := by
      rw [Set.range_list_map]
      intro item hitem
      obtain ⟨word, rfl, -⟩ := hitems item hitem
      exact ⟨word, rfl⟩
    obtain ⟨words, rfl⟩ := hwords
    refine ⟨words, rfl, (noRepeats_map_str _ words).mp hdistinct, fun word hword => ?_⟩
    obtain ⟨_, hstr, hkind⟩ := hitems (.str word) (List.mem_map_of_mem hword)
    exact Json.str.inj hstr ▸ hkind

/-- A list of different texts that match a pattern. -/
theorem meets_textList_iff {written : String} {p : Pattern} :
    Meets named (.all [.hasType [.array], .items (textLike written p), .uniqueItems]) v ↔
      IsTextList (fun s => p.occursIn s = true) v := by
  cases v with
  | arr items =>
    rw [isTextList_iff]
    simp [Meets, MeetsAll, MeetsDemand, ValueType.covers, meets_textLike_iff]
  | _ => simp [Meets, MeetsAll, MeetsDemand, ValueType.covers, IsTextList]

/-- The same, where the list may not be empty. -/
theorem meets_someTextList_iff {written : String} {p : Pattern} :
    Meets named (.all [.hasType [.array], .minItems 1, .items (textLike written p), .uniqueItems]) v ↔
      IsTextList (fun s => p.occursIn s = true) v ∧ v ≠ .arr [] := by
  cases v with
  | arr items =>
    have hsome : 1 ≤ items.length ↔ items ≠ [] := List.length_pos_iff
    rw [isTextList_iff]
    simp [Meets, MeetsAll, MeetsDemand, ValueType.covers, meets_textLike_iff, hsome]
    tauto
  | _ => simp [Meets, MeetsAll, MeetsDemand, ValueType.covers, IsTextList]

/-- An object whose keys match a pattern and whose values meet a schema. -/
theorem meets_table_iff {written : String} {p : Pattern} {other : Schema} :
    Meets named (.all [.hasType [.object], .propertyNames (nameLike written p), .propertiesOr [] other]) v ↔
      IsTable (fun key => p.occursIn key = true) (Meets named other) v := by
  cases v with
  | obj fields =>
    simp [Meets, MeetsAll, MeetsDemand, MeetsKnown, ValueType.covers, IsTable, meets_nameLike_iff, Json.Fields.keys,
      forall_and]
  | _ => simp [Meets, MeetsAll, MeetsDemand, ValueType.covers, IsTable]

/-- The same, where the object may not be empty. -/
theorem meets_someTable_iff {written : String} {p : Pattern} {other : Schema} :
    Meets named (.all [.hasType [.object], .minProperties 1, .propertyNames (nameLike written p),
        .propertiesOr [] other]) v ↔
      IsTable (fun key => p.occursIn key = true) (Meets named other) v ∧ v ≠ .obj [] := by
  cases v with
  | obj fields =>
    have hsome : 1 ≤ fields.length ↔ fields ≠ [] := List.length_pos_iff
    simp [Meets, MeetsAll, MeetsDemand, MeetsKnown, ValueType.covers, IsTable, meets_nameLike_iff,
      Json.Fields.keys, forall_and, hsome]
    tauto
  | _ => simp [Meets, MeetsAll, MeetsDemand, ValueType.covers, IsTable]

/-- An object whose values meet a schema. -/
theorem meets_values_iff {other : Schema} :
    Meets named (.all [.hasType [.object], .propertiesOr [] other]) v ↔
      IsTable (fun _ => True) (Meets named other) v := by
  cases v <;> simp [Meets, MeetsAll, MeetsDemand, MeetsKnown, ValueType.covers, IsTable]

/-- An object with some members, where the values of known members meet their schemas. -/
theorem meets_record_iff {required : List String} {known : List (String × Schema)} :
    Meets named (.all [.hasType [.object], .required required, .properties known]) v ↔
      IsRecord (fun fields => (∀ name ∈ required, name ∈ Json.Fields.keys fields) ∧
        MeetsProperties named known fields) v := by
  cases v <;> simp [Meets, MeetsAll, MeetsDemand, ValueType.covers, IsRecord]

/-! ## The schema of documents -/

variable {names : Nat}

theorem meets_named_iff {root : Root} {name : String} (entry : String × Schema)
    (hfind : root.library.find? (·.1 == name) = some entry) :
    Meets (root.meetsWithin (names + 1)) (.all [.named name]) v ↔ Meets (root.meetsWithin names) entry.2 v := by
  simp [Meets, MeetsAll, MeetsDemand, Root.meetsWithin, hfind]

theorem meets_identifier_iff :
    Meets (bindings.meetsWithin (names + 1)) (.all [.named "#/$defs/identifier"]) v ↔ IsIdentifier v := by
  rw [meets_named_iff ("#/$defs/identifier", identifierSchema) rfl, identifierSchema,
    meets_textLike_iff]
  simp only [identifier_iff, IsIdentifier]

theorem meets_binding_iff :
    Meets (bindings.meetsWithin (names + 1))
      (.all [.oneOf [.all [.named "#/$defs/identifier"], .all [.hasType [.null]]]]) v ↔ IsBinding v := by
  have hnull : Meets (bindings.meetsWithin (names + 1)) (.all [.hasType [.null]]) v ↔ v = .null := by
    cases v <;> simp [Meets, MeetsAll, MeetsDemand, ValueType.covers]
  -- Nothing is both, so one of the two is exactly one.
  have hboth : v = .null → ¬IsIdentifier v := by
    rintro rfl ⟨s, hs, -⟩
    contradiction
  rw [Meets, MeetsAll, MeetsAll, MeetsDemand, MeetsOne, MeetsOne, MeetsOne, MeetsNone, MeetsNone, hnull,
    meets_identifier_iff, IsBinding]
  tauto

theorem meets_subPath_iff :
    Meets (bindings.meetsWithin (names + 1)) subPathSchema v ↔ IsRecord SubPathGrammar v := by
  have hbinding : Meets (bindings.meetsWithin (names + 1))
      (.all [.oneOf [.all [.named "#/$defs/identifier"], .all [.hasType [.null]]]]) = IsBinding :=
    funext fun _ => propext meets_binding_iff
  rw [subPathSchema, meets_record_iff, IsRecord, IsRecord]
  refine exists_congr fun fields => and_congr_right' ?_
  simp only [MeetsProperties, meets_someText_iff, meets_someTextList_iff, meets_values_iff, hbinding,
    componentName_iff, List.forall_mem_cons, subPathGrammar_iff, has_iff, MayHave]
  tauto

theorem meets_profile_iff :
    Meets (bindings.meetsWithin (names + 2)) profileSchema v ↔ IsRecord ProfileGrammar v := by
  have hsubPath : Meets (bindings.meetsWithin (names + 2)) (.all [.named "#/$defs/subpath"]) =
      IsRecord SubPathGrammar := by
    funext w
    rw [meets_named_iff ("#/$defs/subpath", subPathSchema) rfl]
    exact propext meets_subPath_iff
  rw [profileSchema, meets_record_iff, IsRecord, IsRecord]
  refine exists_congr fun fields => and_congr_right' ?_
  simp only [MeetsProperties, meets_someText_iff, meets_identifier_iff, meets_textList_iff, meets_table_iff,
    hsubPath, subactionPath_iff, subPathPath_iff, List.forall_mem_cons, profileGrammar_iff, has_iff, MayHave]
  tauto

theorem meets_document_iff :
    Meets (bindings.meetsWithin (names + 3)) documentSchema v ↔ IsDocument v := by
  have hprofile : Meets (bindings.meetsWithin (names + 3)) (.all [.named "#/$defs/profile"]) =
      IsRecord ProfileGrammar := by
    funext w
    rw [meets_named_iff ("#/$defs/profile", profileSchema) rfl]
    exact propext meets_profile_iff
  rw [documentSchema, meets_record_iff, IsRecord, IsDocument, IsRecord]
  refine exists_congr fun fields => and_congr_right' ?_
  simp only [MeetsProperties, meets_someTable_iff, hprofile, profilePath_iff, List.forall_mem_cons, has_iff,
    MayHave]
  tauto

/-- A value has no violations exactly if it is a document. -/
theorem violations_bindings_eq_nil_iff : bindings.violations v = [] ↔ IsDocument v := by
  -- At most three names are on a path: a profile, a sub-path and an identifier.
  obtain ⟨names, hnames⟩ : ∃ names, (Root.depth v + 2) * (bindings.library.length + 1) = names + 3 := by
    have hlibrary : bindings.library.length = 3 := rfl
    exact ⟨Root.depth v * 4 + 5, by rw [hlibrary]; omega⟩
  rw [Root.violations, hnames, violationsWithin_eq_nil_iff]
  exact meets_document_iff

theorem check_builtIn_eq_ok_iff : Validator.builtIn.check v = .ok () ↔ bindings.violations v = [] := by
  simp only [Validator.check, Validator.root?]
  cases bindings.violations v <;> simp

/-- The built-in schema accepts the documents of the grammar, and no other value. -/
theorem builtIn_accepts_iff (v : Json) : Validator.builtIn.check v = .ok () ↔ IsDocument v :=
  check_builtIn_eq_ok_iff.trans violations_bindings_eq_nil_iff

end ProfileBindings.Schema
