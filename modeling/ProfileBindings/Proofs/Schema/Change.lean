import ProfileBindings.Proofs.Profile.Change
import ProfileBindings.Proofs.Schema.Model

/-!
# Members that neither the schema nor the reading of documents looks at

The grammar of documents says which members there are to be and leaves all others open. The typed reading of
documents does the same, so that what one of them does not look at the other does not look at either.

* `Schema.isDocument_ignores_widens` : unknown members make no difference to the grammar;
* `Document.unknown_members_and_order_do_not_matter` : nor to what is read; the order of fields and bindings
  makes no difference to which document is read.
-/

namespace ProfileBindings

open Json Decode

namespace Schema

variable {R : Json → Json → Prop} {fields fields' : Fields} {name : String} {kind : Json → Prop}

/-! ## What the grammar does not see -/

theorem has_congr (h : fields'.get? name = fields.get? name) : Has fields' name kind ↔ Has fields name kind := by
  rw [Has, Has, h]

theorem mayHave_congr (h : fields'.get? name = fields.get? name) :
    MayHave fields' name kind ↔ MayHave fields name kind := by
  rw [MayHave, MayHave, h]

theorem has_of_at (hkind : Ignores kind R) (h : Fields.At name R fields fields') :
    Has fields' name kind ↔ Has fields name kind := by
  rcases h.get?_eq_or with hget | ⟨v, w, hv, hw, hvw⟩
  · exact has_congr hget
  · simp only [Has, hv, hw, Option.some.injEq, exists_eq_left', hkind hvw]

theorem isRecord_ignores {kind : Fields → Prop} {change : Fields → Fields → Prop}
    (hkind : ∀ {fields fields'}, change fields fields' → (kind fields' ↔ kind fields)) :
    Ignores (IsRecord kind) (InObject change) := by
  rintro _ _ ⟨h⟩
  simp only [IsRecord, Json.obj.injEq, exists_eq_left', hkind h]

/-- A list is no object, whatever has changed in it. -/
theorem isRecord_ignores_atField {kind : Fields → Prop} {names : List String}
    (hkind : ∀ {fields fields'}, Fields.At name R fields fields' → (kind fields' ↔ kind fields)) :
    Ignores (IsRecord kind) (AtField names name R) := by
  have hobject : Ignores (IsRecord kind) (InObject (Fields.At name R)) := isRecord_ignores hkind
  intro v w h
  cases h with
  | named hfields => exact hobject ⟨hfields⟩
  | listed => simp [IsRecord]

theorem isTable_ignores {key : String → Prop} (hkind : Ignores kind R) :
    Ignores (IsTable key kind) (InObject (Fields.AtAny R)) := by
  rintro _ _ ⟨other, hat⟩
  simp only [IsTable, Json.obj.injEq, exists_eq_left', eq_iff_iff]
  exact hat.forall_mem_iff fun v w hvw => by rw [hkind hvw]

theorem subPath_ignores_inserts :
    Ignores (IsRecord SubPathGrammar) (InObject (Fields.Inserts SubPath.form.names)) := by
  refine isRecord_ignores fun h => ?_
  have hget : ∀ {name}, name ∈ SubPath.form.names → _ := h.get?_eq
  rw [subPathGrammar_iff, subPathGrammar_iff, has_congr (hget (by decide)), has_congr (hget (by decide)),
    has_congr (hget (by decide)), has_congr (hget (by decide)), mayHave_congr (hget (by decide))]

theorem profile_ignores_inserts :
    Ignores (IsRecord ProfileGrammar) (InObject (Fields.Inserts Profile.form.names)) := by
  refine isRecord_ignores fun h => ?_
  have hget : ∀ {name}, name ∈ Profile.form.names → _ := h.get?_eq
  rw [profileGrammar_iff, profileGrammar_iff, has_congr (hget (by decide)), has_congr (hget (by decide)),
    has_congr (hget (by decide)), has_congr (hget (by decide)), has_congr (hget (by decide))]

theorem profile_ignores_atSubPath (hR : Ignores (IsRecord SubPathGrammar) R) :
    Ignores (IsRecord ProfileGrammar) (Profile.AtSubPath R) := by
  refine isRecord_ignores_atField fun h => ?_
  have hget : ∀ {name}, name ≠ "subpaths" → _ := h.get?_of_ne
  rw [profileGrammar_iff, profileGrammar_iff, has_congr (hget (by decide)), has_congr (hget (by decide)),
    has_congr (hget (by decide)), has_congr (hget (by decide)), has_of_at (isTable_ignores hR) h]

theorem isDocument_ignores_inserts : Ignores IsDocument (InObject (Fields.Inserts ["profiles"])) :=
  isRecord_ignores fun h => has_congr (h.get?_eq (List.mem_singleton_self _))

theorem isDocument_ignores_atProfile (hR : Ignores (IsRecord ProfileGrammar) R) :
    Ignores IsDocument (Document.AtProfile R) := by
  refine isRecord_ignores (has_of_at ?_)
  rintro _ _ ⟨hat⟩
  have hempty : ∀ {fields fields' : Fields}, Fields.AtAny R fields fields' → (fields' = [] ↔ fields = []) := by
    rintro _ _ ⟨_, ⟨-⟩⟩
    simp
  simp only [isTable_ignores hR ⟨hat⟩, ne_eq, Json.obj.injEq, hempty hat]

theorem isDocument_ignores_widens : Ignores IsDocument Document.Widens := by
  intro v w h
  cases h with
  | root h => exact isDocument_ignores_inserts h
  | profile h => exact isDocument_ignores_atProfile profile_ignores_inserts h
  | subPath h => exact isDocument_ignores_atProfile (profile_ignores_atSubPath subPath_ignores_inserts) h

end Schema

namespace Document

/-- Members with unknown names, however many and wherever they come in, change neither the document or error
that is read nor whether the schema accepts. With fields and bindings in another order the same document is
read, or again none. -/
theorem unknown_members_and_order_do_not_matter (v : Json) :
    (∀ w, Relation.ReflTransGen Widens v w →
      read w = read v ∧ (Validator.builtIn.check w = .ok () ↔ Validator.builtIn.check v = .ok ())) ∧
    (v.WellKeyed → ∀ w, Relation.ReflTransGen Reorders v w →
      w.WellKeyed ∧ ∀ d, read w = .ok d ↔ read v = .ok d) := by
  have haccepts : ∀ w, Validator.builtIn.check w = .ok () ↔ Schema.IsDocument w := fun _ =>
    Schema.check_builtIn_eq_ok_iff.trans Schema.violations_bindings_eq_nil_iff
  refine ⟨fun w h => ⟨read_ignores_widens.of_reflTransGen h, ?_⟩, fun hkeys w h => ?_⟩
  · rw [haccepts, haccepts, Schema.isDocument_ignores_widens.of_reflTransGen h]
  · have hkeys' : w.WellKeyed := Reorders.keeps_wellKeyed.of_reflTransGen h hkeys
    refine ⟨hkeys', fun d => ?_⟩
    rw [read_eq_ok_iff hkeys', read_eq_ok_iff hkeys, (ignores_reorders d).of_reflTransGen h]

/-! ## A document with a note -/

/-- The members of a button. -/
def button : Fields := [
  ("type", .str "button"),
  ("localized_name", .str "Select"),
  ("components", .arr [.str "click"]),
  ("monado_bindings", .obj [("click", .str "XRT_INPUT_SIMPLE_SELECT_CLICK")])]

/-- The same with a path among them, which is no field of a sub-path. -/
def buttonWithPath : Fields := button.insertIdx 1 ("path", .str "/input/other")

/-- The members of a controller that has this surface. -/
def controllerWith (surface : Fields) : Fields := [
  ("title", .str "Simple Controller"),
  ("type", .str "simple"),
  ("monado_device", .str "XRT_DEVICE_SIMPLE_CONTROLLER"),
  ("subaction_paths", .arr [.str "/user/hand/left", .str "/user/hand/right"]),
  ("subpaths", .obj [("/input/select", .obj surface)])]

/-- A document of one controller, with other members in front of it. -/
def documentOf (front controller : Fields) : Json :=
  .obj (front ++ [("profiles", .obj [("/interaction_profiles/khr/simple_controller", .obj controller)])])

/-- The small document with a note in front and a path among the members of the button. -/
def notedValue : Json := documentOf [("note", .null)] (controllerWith buttonWithPath)

/-- The small document with the members of the controller the other way round. -/
def turnedValue : Json := documentOf [] (controllerWith button).reverse

theorem atProfile_documentOf {R : Json → Json → Prop} {controller controller' : Fields} (front : Fields)
    (h : R (.obj controller) (.obj controller')) :
    AtProfile R (documentOf front controller) (documentOf front controller') :=
  .intro (.intro (.intro ⟨_, @Fields.At.intro _ R [] [] _ _ h⟩))

theorem atSubPath_controllerWith {R : Json → Json → Prop} {surface surface' : Fields}
    (h : R (.obj surface) (.obj surface')) :
    Profile.AtSubPath R (.obj (controllerWith surface)) (.obj (controllerWith surface')) :=
  .named (@Fields.At.intro _ _ ((controllerWith []).take 4) [] _ _ (.intro ⟨_, @Fields.At.intro _ R [] [] _ _ h⟩))

theorem widens_notedValue : Relation.ReflTransGen Widens simpleValue notedValue := by
  have hnote : Widens simpleValue (documentOf [("note", .null)] (controllerWith button)) :=
    .root (.intro (@Fields.Inserts.intro _ [] _ _ _ (by decide)))
  have hpath : Widens (documentOf [("note", .null)] (controllerWith button)) notedValue :=
    .subPath (atProfile_documentOf _ (atSubPath_controllerWith
      (.intro (@Fields.Inserts.intro _ (button.take 1) _ _ _ (by decide)))))
  exact .tail (.single hnote) hpath

theorem reorders_turnedValue : Relation.ReflTransGen Reorders simpleValue turnedValue := by
  have hcontroller : Fields.Permutes (controllerWith button) (controllerWith button).reverse :=
    ⟨by decide, (List.reverse_perm _).symm⟩
  exact .single (.profile (atProfile_documentOf [] (.intro hcontroller)))

/-- The note and the path are not looked at, nor is the order of the controller. -/
theorem simpleValue_noted_and_turned :
    (Relation.ReflTransGen Widens simpleValue notedValue ∧ read notedValue = read simpleValue ∧
      Validator.builtIn.check notedValue = .ok ()) ∧
    simpleValue.WellKeyed ∧ Relation.ReflTransGen Reorders simpleValue turnedValue ∧
      ∃ d, read turnedValue = .ok d ∧ read simpleValue = .ok d := by
  obtain ⟨hunknown, horder⟩ := unknown_members_and_order_do_not_matter simpleValue
  obtain ⟨hread, haccepts⟩ := hunknown _ widens_notedValue
  obtain ⟨-, hsame⟩ := horder wellKeyed_simpleValue _ reorders_turnedValue
  obtain ⟨d, -, hd, -⟩ := read_of_isDocument wellKeyed_simpleValue
    (Schema.violations_bindings_eq_nil_iff.mp violations_simpleValue)
  exact ⟨⟨widens_notedValue, hread, haccepts.mpr (Schema.check_builtIn_eq_ok_iff.mpr violations_simpleValue)⟩,
    wellKeyed_simpleValue, reorders_turnedValue, d, (hsame d).mpr hd, hd⟩

end Document

end ProfileBindings
