import ProfileBindings.Proofs.Artifact.Failure
import ProfileBindings.Proofs.Enumerator.Shuffle

/-!
# Name functions of documents in another order

The name functions are printed from the enumerators of the document and from nothing else of it. In the
source they are the last thing, behind the table of profiles.

* `NameFunctions.texts` : the texts of the four functions;
* `EndsWithFunctions` : where they stand in the source.

Main statements: `names_independent_of_order`, another order of the document changes neither the enumerators
nor the text of the name functions.
-/

namespace ProfileBindings.Artifact

/-- The texts of the four name functions, inputs first. -/
def NameFunctions.texts (config : Config) (d : Document) : List String :=
  [Direction.input, .output].flatMap fun direction =>
    [C.lines (ofDocument config d direction).stringLines,
      C.lines (ofDocument config d direction).enumLines]

/-- Behind the table of profiles the text has these functions, and only the closing comment behind them. -/
def EndsWithFunctions (functions : List String) (text : String) : Prop :=
  ∃ front, text = front ++ C.lines ["\x7d; // /array of profile_template", ""] ++ String.join functions
    ++ C.lines ["", "// clang-format on"]

theorem ProfileTable.exists_print_eq (entries : List ProfileEntry) :
    ∃ front, ProfileTable.print entries
      = front ++ C.lines ["\x7d; // /array of profile_template", ""] := by
  rw [ProfileTable.print, C.lines_append, ← String.append_assoc]
  exact ⟨_, rfl⟩

theorem NameFunctions.join_texts (config : Config) (d : Document) :
    String.join (texts config d)
      = (ofDocument config d .input).print ++ (ofDocument config d .output).print := by
  simp only [texts, print, C.lines_append, List.flatMap_cons, List.flatMap_nil, List.append_nil,
    List.cons_append, List.nil_append, String.join_cons, String.join_nil, String.append_empty,
    String.append_assoc]

/-- The source of a document ends with its name functions. -/
theorem endsWithFunctions_of_render {config : Config} {d : Document} {text : String}
    (h : render .source config d = .ok text) :
    EndsWithFunctions (NameFunctions.texts config d) text := by
  obtain ⟨-, -, -, rfl⟩ := render_source_eq_ok_iff.mp h
  obtain ⟨front, htable⟩ := ProfileTable.exists_print_eq (Source.assemble config d).profiles
  rw [EndsWithFunctions, NameFunctions.join_texts, Source.print, htable]
  simp only [← String.append_assoc]
  exact ⟨_, rfl⟩

/-- The name functions are printed from the enumerators and the fallbacks. -/
theorem NameFunctions.texts_congr {config : Config} {d e : Document} {l m : List String}
    (h : EnumeratorNames.ofDocument d l = EnumeratorNames.ofDocument e m) :
    texts { config with extraInputs := l } d = texts { config with extraInputs := m } e := by
  have hfunctions : ∀ direction, ofDocument { config with extraInputs := l } d direction
      = ofDocument { config with extraInputs := m } e direction := by
    intro direction
    cases direction <;> simp only [ofDocument, h, Config.fallback]
  simp only [texts, hfunctions]

/-- Neither the order of profiles, of sub-paths, of subaction paths, of components or of extra inputs nor
the repetition of the last three makes a difference to the enumerators of a document, which stand in
ascending order of their bytes, or to the text of the name functions. -/
theorem names_independent_of_order {d e : Document} (hdocuments : d.Shuffled e) {l m : List String}
    (hextras : SameMembers l m) :
    EnumeratorNames.ofDocument d l = EnumeratorNames.ofDocument e m ∧
    (∀ direction,
      (((EnumeratorNames.ofDocument d l).of direction).toList.map Text.utf8).Pairwise (· < ·) ∧
      ((EnumeratorNames.ofDocument d l).of direction).toList.Nodup) ∧
    ∀ (config : Config) (s t : String), render .source { config with extraInputs := l } d = .ok s →
      render .source { config with extraInputs := m } e = .ok t →
      EndsWithFunctions (NameFunctions.texts { config with extraInputs := l } d) s ∧
      EndsWithFunctions (NameFunctions.texts { config with extraInputs := m } e) t ∧
      NameFunctions.texts { config with extraInputs := l } d
        = NameFunctions.texts { config with extraInputs := m } e := by
  have hnames := EnumeratorNames.ofDocument_eq_of_shuffled hdocuments hextras
  refine ⟨hnames, fun direction => ⟨EnumeratorNames.pairwise_utf8 _ direction,
    Sorted.Set.nodup_toList _⟩, fun config s t hs ht => ?_⟩
  exact ⟨endsWithFunctions_of_render hs, endsWithFunctions_of_render ht, NameFunctions.texts_congr hnames⟩

/-! ## Two controllers, listed in two ways -/

/-- A controller that has a motor only. -/
def motor : Profile where
  name := ⟨["khr", "motor"], by decide, by decide⟩
  title := "Motor"
  deviceType := "motor"
  device := "XRT_DEVICE_MOTOR"
  subactionPaths := ["/user/hand/left"]
  subPaths := [⟨"/output/haptic", "vibration", "Haptic", none, ["haptic"],
    .ofList [("haptic", some "XRT_OUTPUT_NAME_MOTOR_VIBRATION")]⟩]

/-- The small controller, its hands and its surfaces the other way round, one of the hands listed twice. -/
def turnedController : Profile :=
  { simpleController with
    subactionPaths := ["/user/hand/right", "/user/hand/left", "/user/hand/right"]
    subPaths := simpleController.subPaths.reverse }

/-- The small controller and the motor. -/
def controllers : Document := ⟨[simpleController, motor]⟩

/-- The same, the other way round. -/
def turnedControllers : Document := ⟨[motor, turnedController]⟩

theorem shuffled_turnedControllers : controllers.Shuffled turnedControllers := by
  have hcontroller : simpleController.Shuffled turnedController := {
    subactionPaths := fun a => by simp [simpleController, turnedController]; tauto
    subPaths := ⟨_, (List.reverse_perm _).symm, List.forall₂_same.mpr fun s _ => .refl s⟩
    rest := rfl }
  exact ⟨[motor, simpleController], .swap .., .cons (.refl _) (.cons hcontroller .nil)⟩

/-- Two inputs that no component is bound to. -/
def headInputs : List String := ["XRT_INPUT_HEAD_POSE", "XRT_INPUT_HEAD_DETECT"]

theorem exists_render_controllers :
    ∃ s, render .source { Config.standard with extraInputs := headInputs } controllers = .ok s := by
  have hexpand : ∀ p ∈ controllers.profiles, p.expand ≠ [] := by decide
  exact exists_render_iff.mpr ⟨Config.fault?_eq_none_iff.mp rfl, List.cons_ne_nil _ _, fun _ => hexpand⟩

theorem exists_render_turnedControllers :
    ∃ t, render .source { Config.standard with extraInputs := headInputs.reverse } turnedControllers
      = .ok t := by
  have hexpand : ∀ p ∈ turnedControllers.profiles, p.expand ≠ [] := by decide
  exact exists_render_iff.mpr ⟨Config.fault?_eq_none_iff.mp rfl, List.cons_ne_nil _ _, fun _ => hexpand⟩

/-- The two controllers have the same name functions in either order, and with the extra inputs in either. -/
theorem names_turnedControllers :
    controllers.Shuffled turnedControllers ∧ SameMembers headInputs headInputs.reverse ∧
    EnumeratorNames.ofDocument controllers headInputs
      = EnumeratorNames.ofDocument turnedControllers headInputs.reverse ∧
    ∃ s t,
      render .source { Config.standard with extraInputs := headInputs } controllers = .ok s ∧
      render .source { Config.standard with extraInputs := headInputs.reverse } turnedControllers = .ok t ∧
      EndsWithFunctions (NameFunctions.texts { Config.standard with extraInputs := headInputs } controllers) s ∧
      EndsWithFunctions (NameFunctions.texts { Config.standard with extraInputs := headInputs } controllers) t := by
  have hextras : SameMembers headInputs headInputs.reverse := fun _ => List.mem_reverse.symm
  obtain ⟨hnames, -, htexts⟩ := names_independent_of_order shuffled_turnedControllers hextras
  obtain ⟨s, hs⟩ := exists_render_controllers
  obtain ⟨t, ht⟩ := exists_render_turnedControllers
  obtain ⟨hfront, hback, hsame⟩ := htexts .standard s t hs ht
  rw [← hsame] at hback
  exact ⟨shuffled_turnedControllers, hextras, hnames, s, t, hs, ht, hfront, hback⟩

end ProfileBindings.Artifact
