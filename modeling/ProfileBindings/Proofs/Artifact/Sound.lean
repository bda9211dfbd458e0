import ProfileBindings.Proofs.Artifact.Assembly
import ProfileBindings.Proofs.Artifact.Source
import ProfileBindings.Proofs.Enumerator.Names
import ProfileBindings.Proofs.Profile.Name

/-!
# The source of a sound document

Names reach the text as they are: of functions, of devices, of enumerators. The checks of the configuration
and of the document see to it that they can.

* `Config.fallback` : the enumerator that an unknown name stands for;
* `NameFunctions.ofDocument` : the name functions of one direction.

Main statements:
* `Source.clean_assemble` : the text of a sound document is read as it is meant;
* `Source.functionsNamed_assemble` : the functions that the text defines, by their names;
* `render_source_of_sound` : a sound document that has profiles has a text.
-/

namespace ProfileBindings

/-- The enumerator that an unknown name stands for. -/
def Config.fallback (config : Config) : Direction → String
  | .input => config.inputFallback
  | .output => config.outputFallback

theorem Config.Valid.fallback {config : Config} (h : config.Valid) (direction : Direction) :
    isEnumeratorOf direction (config.fallback direction) = true := by
  cases direction with
  | input => exact h.inputFallback
  | output => exact h.outputFallback

namespace Artifact

open C Check

/-! ## Name functions -/

/-- The name functions of one direction. -/
def NameFunctions.ofDocument (config : Config) (d : Document) (direction : Direction) : NameFunctions where
  direction := direction
  names := ((EnumeratorNames.ofDocument d config.extraInputs).of direction).toList
  fallback := config.fallback direction

theorem NameFunctions.enumerates_ofDocument {config : Config} {d : Document} (hc : config.Valid)
    (hd : SoundDocument config.pathsPerTemplate d) (direction : Direction) :
    (ofDocument config d direction).Enumerates :=
  ⟨fun _ hname => EnumeratorNames.isEnumeratorOf_of_mem hc hd hname, hc.fallback direction⟩

theorem NameFunctions.nodup_names (config : Config) (d : Document) (direction : Direction) :
    (ofDocument config d direction).names.Nodup :=
  Sorted.Set.nodup_toList _

/-! ## Entries -/

/-- An entry shows an enumerator only if its component is bound to it. -/
theorem ComponentEntry.clean_ofComponent {capacity : Nat} {p : Profile} (hp : SoundProfile capacity p)
    {c : Component} (hc : c ∈ p.expand) : (ComponentEntry.ofComponent c).Clean := by
  intro operands hoperands
  have hoperands' : operandsOf c.direction c.binding = some operands := hoperands
  cases hbinding : c.binding with
  | undeclared => simp [hbinding, operandsOf] at hoperands'
  | unbound =>
    simp only [hbinding, operandsOf, Option.some.injEq] at hoperands'
    subst hoperands'
    exact ⟨trivial, trivial⟩
  | bound name =>
    have hname : Text.isIdentifier name = true := (hp.enumerates hc hbinding).1
    cases hdirection : c.direction with
    | input =>
      simp only [hbinding, hdirection, operandsOf, Option.some.injEq] at hoperands'
      subst hoperands'
      exact ⟨hname, trivial⟩
    | output =>
      simp only [hbinding, hdirection, operandsOf, Option.some.injEq] at hoperands'
      subst hoperands'
      exact ⟨trivial, hname⟩

theorem ProfileEntry.clean_assemble {capacity : Nat} {p : Profile} (hp : SoundProfile capacity p) :
    (ProfileEntry.assemble p).Clean := by
  refine ⟨hp.device, p.name.isPlain_steamvr.1, p.name.isPlain_steamvr.2, fun e he => ?_⟩
  obtain ⟨c, hc, rfl⟩ := List.mem_map.mp he
  exact ComponentEntry.clean_ofComponent hp hc

/-! ## The text -/

namespace Source

variable {config : Config} {d : Document}

theorem isIdentifier_nameOf (hc : config.Valid) (name : ProfileName) :
    Text.isIdentifier (VerifyFunction.nameOf config name) = true :=
  name.isIdentifier_append_stem hc.verifyPrefix (by decide)

/-- The text of a sound document is read as it is meant. -/
theorem clean_assemble (hc : config.Valid) (hd : SoundDocument config.pathsPerTemplate d) :
    (assemble config d).Clean where
  license license hlicense := Config.not_mem_of_isLicense (hc.license license hlicense)
  headerInclude := Config.not_mem_of_isIncludePath hc.headerInclude
  verifyFunctions f hf := by
    obtain ⟨p, -, rfl⟩ := List.mem_map.mp hf
    exact isIdentifier_nameOf hc p.name
  profiles e he := by
    obtain ⟨p, hp, rfl⟩ := List.mem_map.mp he
    exact ProfileEntry.clean_assemble (hd.profiles p hp)
  inputs := NameFunctions.enumerates_ofDocument hc hd .input
  outputs := NameFunctions.enumerates_ofDocument hc hd .output

/-! ## Functions by their names -/

/-- Where one element of a list fits and no two do, it is what is selected. -/
theorem filter_eq_singleton {α : Type} {l : List α} {q : α → Bool} {a : α} (ha : a ∈ l)
    (hq : q a = true) (hl : l.Pairwise fun x y => ¬(q x = true ∧ q y = true)) : l.filter q = [a] := by
  induction l with
  | nil => contradiction
  | cons b l ih =>
    obtain ⟨hb, hl⟩ := List.pairwise_cons.mp hl
    -- It is the first element, and no other fits, or the first element does not fit.
    rcases List.mem_cons.mp ha with rfl | ha
    · have hrest : l.filter q = [] := by
        rw [List.filter_eq_nil_iff]
        exact fun x hx hqx => hb x hx ⟨hq, hqx⟩
      rw [List.filter_cons_of_pos hq, hrest]
    · have hnot : ¬q b = true := fun hqb => hb a ha ⟨hqb, hq⟩
      rw [List.filter_cons_of_neg hnot, ih ha hl]

theorem stem_eq_of_nameOf_eq {m n : ProfileName}
    (h : VerifyFunction.nameOf config m = VerifyFunction.nameOf config n) : m.stem = n.stem := by
  have hlists := congrArg String.toList h
  simp only [VerifyFunction.nameOf, String.toList_append, List.append_cancel_right_eq,
    List.append_cancel_left_eq] at hlists
  exact String.toList_inj.mp hlists

/-- The names of the functions from and to enumerators, inputs first. -/
def enumeratorFunctions : List String :=
  [stringName .input, enumName .input, stringName .output, enumName .output]

/-- The verify functions are told from the name functions by how their names end. -/
theorem nameOf_not_mem (name : ProfileName) :
    VerifyFunction.nameOf config name ∉ enumeratorFunctions := by
  have hends : ∀ other ∈ enumeratorFunctions, ¬"_subpath".toList <:+ other.toList := by
    simp only [enumeratorFunctions, stringName, enumName, List.forall_mem_cons]
    decide
  intro hmem
  apply hends _ hmem
  rw [VerifyFunction.nameOf, String.toList_append]
  exact List.suffix_append _ _

theorem functionNames_assemble (config : Config) (d : Document) : (assemble config d).functions.map (·.name)
    = d.profiles.map (fun p => VerifyFunction.nameOf config p.name) ++ enumeratorFunctions := by
  rw [functions, List.map_append, assemble, List.map_map, List.map_map]
  rfl

/-- No two functions of a sound document have the same name. -/
theorem nodup_functionNames (hd : SoundDocument config.pathsPerTemplate d) :
    ((assemble config d).functions.map (·.name)).Nodup := by
  have hverify : (d.profiles.map fun p => VerifyFunction.nameOf config p.name).Nodup := by
    rw [List.Nodup, List.pairwise_map]
    exact hd.stems.imp fun hne heq => hne (stem_eq_of_nameOf_eq heq)
  have hothers : enumeratorFunctions.Nodup := by simp [enumeratorFunctions, stringName, enumName]
  rw [functionNames_assemble, List.nodup_append]
  refine ⟨hverify, hothers, ?_⟩
  -- No prefix can make a verify function of a name function: the ends differ.
  rintro name hname other hother rfl
  obtain ⟨p, -, rfl⟩ := List.mem_map.mp hname
  exact nameOf_not_mem p.name hother

/-- Each function of a sound document is the only one of its name. -/
theorem functionsNamed_assemble (hc : config.Valid) (hd : SoundDocument config.pathsPerTemplate d)
    {f : Function} (hf : f ∈ (assemble config d).functions) :
    functionsNamed (assemble config d).print f.name = [f] := by
  rw [functionsNamed_print (clean_assemble hc hd)]
  refine filter_eq_singleton hf (by simp) ?_
  have hnodup := nodup_functionNames hd
  rw [List.Nodup, List.pairwise_map] at hnodup
  refine hnodup.imp fun hne => ?_
  rintro ⟨hx, hy⟩
  exact hne (by rw [of_decide_eq_true hx, of_decide_eq_true hy])

end Source

/-- A sound document that has profiles has a text. -/
theorem render_source_of_sound {config : Config} {d : Document} (hc : config.Valid)
    (hd : SoundDocument config.pathsPerTemplate d) (hprofiles : d.profiles ≠ []) :
    render .source config d = .ok (Source.assemble config d).print :=
  render_source_eq_ok_iff.mpr
    ⟨hc, hprofiles, fun p hp => ⟨(hd.profiles p hp).expands, (hd.profiles p hp).fits⟩, rfl⟩

/-! ## A small document -/

/-- A controller with a button, a pose that is bound to nothing and a motor, for either hand. -/
def simpleController : Profile where
  name := ⟨["khr", "simple_controller"], by decide, by decide⟩
  title := "Simple \"Controller\""
  deviceType := "simple"
  device := "XRT_DEVICE_SIMPLE_CONTROLLER"
  subactionPaths := ["/user/hand/left", "/user/hand/right"]
  subPaths := [
    ⟨"/input/select", "button", "Select", none, ["click"],
      .ofList [("click", some "XRT_INPUT_SIMPLE_SELECT_CLICK")]⟩,
    ⟨"/input/grip", "pose", "Grip", none, ["pose"], .ofList [("pose", none)]⟩,
    ⟨"/output/haptic", "vibration", "Haptic", none, ["haptic"],
      .ofList [("haptic", some "XRT_OUTPUT_NAME_SIMPLE_VIBRATION")]⟩]

/-- The document that holds the small controller only. -/
def simpleDocument : Document := ⟨[simpleController]⟩

theorem valid_standard : Config.standard.Valid := Config.fault?_eq_none_iff.mp rfl

theorem hasErrors_simpleDocument :
    hasErrors (issues simpleDocument Config.standard.pathsPerTemplate) = false := rfl

theorem render_simpleDocument :
    render .source .standard simpleDocument = .ok (Source.assemble .standard simpleDocument).print :=
  render_source_of_sound valid_standard (hasErrors_eq_false_iff.mp hasErrors_simpleDocument)
    (by simp [simpleDocument])

end Artifact

end ProfileBindings
