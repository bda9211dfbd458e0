import Mathlib.Data.Set.List
import ProfileBindings.Config.Record
import ProfileBindings.Proofs.Profile.Reading

/-!
# Configurations as overrides

An object names some of the fields of a configuration and says what they are. The others stay what they are in the
standard configuration, whichever fields are named and in whatever order. A configuration that is written names
all of them, and is therefore read again as it was.

* `Field` : the fields, each with its name, its values, and the two directions between values and JSON;
* `Setting` : a field with a value for it;
* `Config.override` : a configuration with settings made one after the other.

Main statements:
* `get_override_of_mem`, `get_override_of_not_mem` : exactly the fields of the settings are replaced;
* `read_members` : an object whose members are settings is read as the standard configuration with these made;
* `exists_settings_of_read`, `read_unknown` : no other object is read, and a name that is no field is refused;
* `read_write` : what is written is read again;
* `settings_override_and_round_trip` : all of this, and the same for sub-paths.
-/

namespace ProfileBindings.Config

/-- The fields of a configuration. -/
inductive Field where
  | headerInclude
  | definesInclude
  | verifyPrefix
  | pathsPerTemplate
  | extraInputs
  | inputFallback
  | outputFallback
  | spdxLicense
deriving DecidableEq

namespace Field

/-- The fields in declared order. -/
def all : List Field :=
  [headerInclude, definesInclude, verifyPrefix, pathsPerTemplate, extraInputs, inputFallback, outputFallback,
    spdxLicense]

/-- The name of a field in an object. -/
def name : Field → String
  | headerInclude => "header_include"
  | definesInclude => "defines_include"
  | verifyPrefix => "verify_prefix"
  | pathsPerTemplate => "paths_per_binding_template"
  | extraInputs => "extra_inputs"
  | inputFallback => "input_fallback"
  | outputFallback => "output_fallback"
  | spdxLicense => "spdx_license"

/-- What a field can be. -/
abbrev Value : Field → Type
  | pathsPerTemplate => Nat
  | extraInputs => List String
  | spdxLicense => Option String
  | _ => String

/-- What a field is in a configuration. -/
def get : (f : Field) → Config → f.Value
  | headerInclude, c => c.headerInclude
  | definesInclude, c => c.definesInclude
  | verifyPrefix, c => c.verifyPrefix
  | pathsPerTemplate, c => c.pathsPerTemplate
  | extraInputs, c => c.extraInputs
  | inputFallback, c => c.inputFallback
  | outputFallback, c => c.outputFallback
  | spdxLicense, c => c.spdxLicense

/-- A configuration with another value for a field. -/
def set : (f : Field) → f.Value → Config → Config
  | headerInclude, value, c => { c with headerInclude := value }
  | definesInclude, value, c => { c with definesInclude := value }
  | verifyPrefix, value, c => { c with verifyPrefix := value }
  | pathsPerTemplate, value, c => { c with pathsPerTemplate := value }
  | extraInputs, value, c => { c with extraInputs := value }
  | inputFallback, value, c => { c with inputFallback := value }
  | outputFallback, value, c => { c with outputFallback := value }
  | spdxLicense, value, c => { c with spdxLicense := value }

/-- A value of a field as JSON: a text, a count, a list of texts, or a text or `null`. -/
def write : (f : Field) → f.Value → Json
  | headerInclude, value => .str value
  | definesInclude, value => .str value
  | verifyPrefix, value => .str value
  | pathsPerTemplate, value => .int value
  | extraInputs, value => .arr (value.map .str)
  | inputFallback, value => .str value
  | outputFallback, value => .str value
  | spdxLicense, value => SubPath.writeOptional value

/-- The value of a field that JSON stands for. -/
def read : (f : Field) → Json → Except Decode.Fault f.Value
  | headerInclude => Decode.text
  | definesInclude => Decode.text
  | verifyPrefix => Decode.text
  | pathsPerTemplate => Decode.count
  | extraInputs => Decode.texts
  | inputFallback => Decode.text
  | outputFallback => Decode.text
  | spdxLicense => Decode.optionalText

variable {f g : Field} {c : Config}

theorem mem_all (f : Field) : f ∈ all := by
  cases f <;> decide

theorem nodup_names : (all.map name).Nodup := by decide

theorem name_injective : Function.Injective name := fun f g =>
  List.inj_on_of_nodup_map nodup_names (mem_all f) (mem_all g)

theorem get_set_self (f : Field) (value : f.Value) (c : Config) : f.get (f.set value c) = value := by
  cases f <;> rfl

theorem get_set_of_ne (h : f ≠ g) (value : g.Value) : f.get (g.set value c) = f.get c := by
  cases g <;> cases f <;> simp_all [get, set]

theorem read_eq_ok_iff {v : Json} {value : f.Value} : f.read v = .ok value ↔ v = f.write value := by
  cases f with
  | pathsPerTemplate => exact Decode.count_eq_ok_iff
  | extraInputs => exact Decode.texts_eq_ok_iff
  | spdxLicense => exact optionalText_eq_ok_iff
  | _ => exact Decode.text_eq_ok_iff

end Field

/-- A field with a value for it. -/
structure Setting where
  field : Field
  value : field.Value

namespace Setting

/-- The member of an object that makes the setting. -/
def member (t : Setting) : String × Json := (t.field.name, t.field.write t.value)

/-- A configuration with the setting made. -/
def apply (c : Config) (t : Setting) : Config := t.field.set t.value c

end Setting

/-- A configuration with settings made one after the other. -/
def override (c : Config) (settings : List Setting) : Config := settings.foldl Setting.apply c

/-- All settings of a configuration, in declared order. -/
def settings (c : Config) : List Setting := Field.all.map fun f => ⟨f, f.get c⟩

variable {c : Config} {settings : List Setting} {t : Setting} {f : Field}

/-! ## What settings do -/

/-- Fields that no setting is for stay as they are. -/
theorem get_override_of_not_mem (h : f ∉ settings.map Setting.field) : f.get (c.override settings) = f.get c := by
  induction settings generalizing c with
  | nil => rfl
  | cons t settings ih =>
    rw [List.map_cons, List.mem_cons, not_or] at h
    rw [override, List.foldl_cons]
    exact (ih h.2).trans (Field.get_set_of_ne h.1 t.value)

/-- Settings for different fields are all kept. -/
theorem get_override_of_mem (hfields : (settings.map Setting.field).Nodup) (h : t ∈ settings) :
    t.field.get (c.override settings) = t.value := by
  induction settings generalizing c with
  | nil => contradiction
  | cons u settings ih =>
    obtain ⟨hu, hrest⟩ := List.nodup_cons.mp hfields
    rw [override, List.foldl_cons]
    rcases List.mem_cons.mp h with rfl | h
    · exact (get_override_of_not_mem hu).trans (t.field.get_set_self t.value c)
    · exact ih hrest h

/-- With all of its settings made any configuration becomes this one. -/
theorem override_settings (base c : Config) : base.override c.settings = c := by
  simp only [override, settings, Field.all, List.map_cons, List.map_nil, List.foldl_cons, List.foldl_nil,
    Setting.apply, Field.set, Field.get]

/-! ## What objects say -/

theorem keys_members (settings : List Setting) :
    Json.Fields.keys (settings.map Setting.member) = (settings.map Setting.field).map Field.name := by
  rw [Json.Fields.keys, List.map_map, List.map_map]
  rfl

theorem nodup_keys_members :
    (Json.Fields.keys (settings.map Setting.member)).Nodup ↔ (settings.map Setting.field).Nodup := by
  rw [keys_members, List.nodup_map_iff Field.name_injective]

/-- What is found under the name of a field: its setting, if there is one. -/
theorem optional_members (hfields : (settings.map Setting.field).Nodup) (f : Field) :
    (⟨form, false, settings.map Setting.member⟩ : Decode.Source).optional f.name (f.get c) f.read =
      .ok (f.get (c.override settings)) := by
  rw [Decode.optional_eq_ok_iff]
  by_cases hf : f ∈ settings.map Setting.field
  · obtain ⟨t, ht, rfl⟩ := List.mem_map.mp hf
    refine .inl ⟨t.field.write t.value, ?_, ?_⟩
    · exact (Json.Fields.mem_iff_get? (nodup_keys_members.mpr hfields)).mp (List.mem_map_of_mem ht)
    · rw [get_override_of_mem hfields ht]
      exact Field.read_eq_ok_iff.mpr rfl
  · have hname : f.name ∉ Json.Fields.keys (settings.map Setting.member) := by
      rw [keys_members, List.mem_map_of_injective Field.name_injective]
      exact hf
    refine .inr ⟨Option.eq_none_iff_forall_ne_some.mpr fun v hv => hname ?_, get_override_of_not_mem hf⟩
    exact Json.Fields.mem_keys_iff.mpr ⟨v, hv⟩

/-! ## What objects are read -/

theorem faultAt?_name (f : Field) (v : Json) : form.faultAt? f.name v = Decode.fault? (f.read v) := by
  cases f <;> rfl

theorem fieldNames_eq : fieldNames = Field.all.map Field.name := rfl

/-- A name that is no field is a fault wherever it stands, whatever its value. -/
theorem faultAt?_of_not_mem {name : String} (hname : name ∉ fieldNames) (v : Json) :
    form.faultAt? name v = some (.unknownField name fieldNames) := by
  have hfind : form.fields.find? (·.1 == name) = none := by
    rw [List.find?_eq_none]
    intro field hfield hkey
    exact hname (List.mem_map.mpr ⟨field, hfield, by simpa using hkey⟩)
  rw [Decode.RecordForm.faultAt?, hfind]
  rfl

/-- A member without fault is a setting. -/
theorem faultAt?_eq_none_iff {name : String} {v : Json} :
    form.faultAt? name v = none ↔ ∃ t : Setting, t.member = (name, v) := by
  constructor
  · intro h
    have hname : name ∈ fieldNames := by
      by_contra hname
      rw [faultAt?_of_not_mem hname] at h
      contradiction
    obtain ⟨f, -, rfl⟩ := List.mem_map.mp (fieldNames_eq ▸ hname)
    rw [faultAt?_name] at h
    obtain ⟨value, hvalue⟩ := Decode.fault?_eq_none_iff.mp h
    exact ⟨⟨f, value⟩, by rw [Setting.member, ← Field.read_eq_ok_iff.mp hvalue]⟩
  · rintro ⟨t, ht⟩
    obtain ⟨rfl, rfl⟩ := Prod.mk.inj ht
    rw [faultAt?_name, Field.read_eq_ok_iff.mpr rfl]
    rfl

theorem firstFault?_members (settings : List Setting) : form.firstFault? (settings.map Setting.member) = none := by
  rw [Decode.RecordForm.firstFault?, List.findSome?_eq_none_iff]
  intro field hfield
  obtain ⟨t, -, rfl⟩ := List.mem_map.mp hfield
  exact faultAt?_eq_none_iff.mpr ⟨t, rfl⟩

/-- An object whose members are settings is read as the standard configuration with these made. -/
theorem read_members (hfields : (settings.map Setting.field).Nodup) :
    read (.obj (settings.map Setting.member)) = .ok (standard.override settings) := by
  have hsource : form.source (.obj (settings.map Setting.member)) =
      .ok ⟨form, false, settings.map Setting.member⟩ := by
    rw [Decode.RecordForm.source, firstFault?_members]
  have hfound := optional_members (c := standard) hfields
  unfold read
  simp only [bind_eq_ok_iff]
  exact ⟨_, hsource, _, hfound .headerInclude, _, hfound .definesInclude, _, hfound .verifyPrefix,
    _, hfound .pathsPerTemplate, _, hfound .extraInputs, _, hfound .inputFallback, _, hfound .outputFallback,
    _, hfound .spdxLicense, rfl⟩

/-- The members of an object that is read are settings. -/
theorem exists_settings_of_read {fields : Json.Fields} (h : read (.obj fields) = .ok c) :
    ∃ settings : List Setting, settings.map Setting.member = fields := by
  obtain ⟨source, hsource, -⟩ := bind_eq_ok_iff.mp h
  have hfault : form.firstFault? fields = none := by
    rw [Decode.RecordForm.source] at hsource
    split at hsource
    · contradiction
    · assumption
  have hrange : fields ∈ Set.range (List.map Setting.member) := by
    rw [Set.range_list_map]
    intro field hfield
    rw [Decode.RecordForm.firstFault?, List.findSome?_eq_none_iff] at hfault
    exact faultAt?_eq_none_iff.mp (hfault field hfield)
  exact hrange

/-- The first name that is no field is to blame, whatever follows. -/
theorem read_unknown {name : String} (hname : name ∉ fieldNames) (settings : List Setting) (v : Json)
    (rest : Json.Fields) :
    read (.obj (settings.map Setting.member ++ (name, v) :: rest)) = .error (.unknownField name fieldNames) := by
  have hfault : form.firstFault? (settings.map Setting.member ++ (name, v) :: rest) =
      some (.unknownField name fieldNames) := by
    have hfront := firstFault?_members settings
    rw [Decode.RecordForm.firstFault?] at hfront ⊢
    rw [List.findSome?_append, hfront, List.findSome?_cons, faultAt?_of_not_mem hname]
    rfl
  refine bind_eq_error_iff.mpr (.inl ?_)
  rw [Decode.RecordForm.source, hfault]

/-! ## What is written -/

theorem write_eq (c : Config) : c.write = .obj (c.settings.map Setting.member) := by
  obtain ⟨_, _, _, _, _, _, _, license⟩ := c
  cases license <;> rfl

/-- All fields are written, in declared order. -/
theorem keys_settings (c : Config) : Json.Fields.keys (c.settings.map Setting.member) = fieldNames := rfl

theorem read_write (c : Config) : read c.write = .ok c := by
  have hfields : (c.settings.map Setting.field).Nodup := by
    rw [← nodup_keys_members, keys_settings]
    exact Field.nodup_names
  rw [write_eq, read_members hfields, override_settings]

/-- An object of settings for different fields, in any order, is read as the standard configuration with exactly
these fields replaced; no other object is read, and a name that is no field is refused wherever it is added. A
configuration is written with all fields in declared order and read again as it was, valid or not. A sub-path is
read again too, except for its path, which is not written: it is the one that it is read for, or none. -/
theorem settings_override_and_round_trip :
    (∀ made : List Setting, (made.map Setting.field).Nodup →
      read (.obj (made.map Setting.member)) = .ok (standard.override made) ∧
      (∀ t ∈ made, t.field.get (standard.override made) = t.value) ∧
      ∀ f, f ∉ made.map Setting.field → f.get (standard.override made) = f.get standard) ∧
    (∀ (fields : Json.Fields) (c : Config), read (.obj fields) = .ok c →
      ∃ made : List Setting, made.map Setting.member = fields) ∧
    (∀ (made : List Setting) (name : String) (v : Json) (rest : Json.Fields), name ∉ fieldNames →
      read (.obj (made.map Setting.member ++ (name, v) :: rest)) = .error (.unknownField name fieldNames)) ∧
    (∀ c : Config, (∃ fields : Json.Fields, c.write = .obj fields ∧ fields.keys = fieldNames) ∧
      read c.write = .ok c) ∧
    ∀ (s : SubPath) (path : String), SubPath.read path s.write = .ok { s with path } := by
  refine ⟨fun made hfields => ?_, fun fields c => exists_settings_of_read, fun made name v rest hname =>
    read_unknown hname made v rest, fun c => ⟨⟨_, write_eq c, keys_settings c⟩, read_write c⟩, SubPath.read_write⟩
  exact ⟨read_members hfields, fun t => get_override_of_mem hfields, fun f => get_override_of_not_mem⟩

/-- Three fields out of their order, and a misspelt one behind them. -/
theorem three_fields_are_replaced :
    read (.obj [("verify_prefix", .str "xr_verify_"), ("spdx_license", .null),
        ("paths_per_binding_template", .int 6)]) =
      .ok { standard with verifyPrefix := "xr_verify_", pathsPerTemplate := 6 } ∧
    read (.obj [("verify_prefix", .str "xr_verify_"), ("spdx_licence", .null)]) =
      .error (.unknownField "spdx_licence" fieldNames) := by
  obtain ⟨hread, -, hunknown, -⟩ := settings_override_and_round_trip
  let made : List Setting := [⟨.verifyPrefix, "xr_verify_"⟩, ⟨.spdxLicense, none⟩, ⟨.pathsPerTemplate, (6 : Nat)⟩]
  exact ⟨(hread made (by decide)).1, hunknown [⟨.verifyPrefix, "xr_verify_"⟩] "spdx_licence" .null [] (by decide)⟩

end ProfileBindings.Config
