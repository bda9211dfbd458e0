import ProfileBindings.Proofs.Check.Errors
import ProfileBindings.Proofs.Profile.Reading

/-!
# Profiles that share derived names

The stem of a profile is made of all segments of its path, its names for SteamVR of the last two only. The
checks keep the stems of a document apart. They do not look at the names for SteamVR, so that these can be
shared by profiles that differ in front of the vendor.

* `ProfileName.front` : the segments in front of the vendor;
* `ProfileName.model` : vendor and device in one word.

Main statements:
* `ProfileName.stem_eq` : a stem is what is in front of the vendor, then the model;
* `Check.derived_names_collide_iff` : in a document without errors no two stems are the same, and two profiles
  share a name for SteamVR exactly if they have one model, which takes different fronts.
-/

namespace ProfileBindings

namespace ProfileName

variable {name other : ProfileName}

/-! ## Front and model -/

/-- The segments in front of the vendor, each with an underscore behind it. -/
def front (name : ProfileName) : String := String.join (name.segments.dropLast.dropLast.map (· ++ "_"))

/-- Vendor and device in one word. -/
def model (name : ProfileName) : String := name.vendor ++ "_" ++ name.device

theorem intercalate_append_pair (l : List String) (s t : String) :
    "_".intercalate (l ++ [s, t]) = String.join (l.map (· ++ "_")) ++ (s ++ "_" ++ t) := by
  induction l with
  | nil => simp
  | cons u l ih =>
    obtain ⟨first, rest, hrest⟩ : ∃ first rest, l ++ [s, t] = first :: rest :=
      List.exists_cons_of_ne_nil (by simp)
    rw [hrest] at ih
    rw [List.cons_append, hrest, String.intercalate_cons_cons, ih, List.map_cons, String.join_cons]
    simp only [String.append_assoc]

/-- A stem is what is in front of the vendor, then the model. -/
theorem stem_eq (name : ProfileName) : name.stem = name.front ++ name.model := by
  rw [stem, name.segments_eq, intercalate_append_pair]
  rfl

/-- A name of two segments has nothing in front of the vendor. -/
theorem front_eq_empty (h : name.segments.length = 2) : name.front = "" := by
  have hnil : name.segments.dropLast.dropLast = [] := by
    rw [← List.length_eq_zero_iff, List.length_dropLast, List.length_dropLast, h]
  rw [front, hnil]
  rfl

/-! ## Names for SteamVR -/

theorem steamvrInputProfilePath_eq_iff :
    name.steamvrInputProfilePath = other.steamvrInputProfilePath ↔ name.model = other.model := by
  have hpath : ∀ n : ProfileName, n.steamvrInputProfilePath = n.model ++ "_profile.json" := fun _ => rfl
  rw [hpath, hpath, ← String.toList_inj, String.toList_append, String.toList_append, List.append_cancel_right_eq,
    String.toList_inj]

theorem steamvrControllerType_eq_iff :
    name.steamvrControllerType = other.steamvrControllerType ↔ name.model = other.model := by
  have htype : ∀ n : ProfileName, n.steamvrControllerType = "monado_" ++ n.model := fun n => by
    simp only [steamvrControllerType, model, String.append_assoc]
  rw [htype, htype, ← String.toList_inj, String.toList_append, String.toList_append, List.append_cancel_left_eq,
    String.toList_inj]

end ProfileName

namespace Check

/-- In a document without errors no two profiles have one stem. They have one name for SteamVR exactly if they
have one model, and then what is in front of their vendors differs. -/
theorem derived_names_collide_iff {d : Document} {capacity : Nat} (h : hasErrors (issues d capacity) = false) :
    d.profiles.Pairwise fun p q => p.name.stem ≠ q.name.stem ∧
      (p.name.steamvrInputProfilePath = q.name.steamvrInputProfilePath ↔ p.name.model = q.name.model) ∧
      (p.name.steamvrControllerType = q.name.steamvrControllerType ↔ p.name.model = q.name.model) ∧
      (p.name.front = q.name.front → p.name.model ≠ q.name.model) ∧
      (p.name.segments.length = 2 → q.name.segments.length = 2 → p.name.model ≠ q.name.model) := by
  refine (hasErrors_eq_false_iff.mp h).stems.imp fun {p q} hstem => ?_
  have hmodel : p.name.front = q.name.front → p.name.model ≠ q.name.model := by
    intro hfront heq
    exact hstem (by rw [p.name.stem_eq, q.name.stem_eq, hfront, heq])
  refine ⟨hstem, ProfileName.steamvrInputProfilePath_eq_iff, ProfileName.steamvrControllerType_eq_iff, hmodel, ?_⟩
  intro hp hq
  exact hmodel (by rw [ProfileName.front_eq_empty hp, ProfileName.front_eq_empty hq])

/-! ## Two wands of one model -/

/-- A trigger. -/
def wandTrigger : SubPath where
  path := "/input/trigger"
  kind := "trigger"
  localizedName := "Trigger"
  side := none
  components := ["click"]
  bindings := .ofList [("click", some "XRT_INPUT_VIVE_TRIGGER_CLICK")]

/-- A wand of one model, named by what is in front of the vendor. -/
def wand (start : String) (hstart : Text.isWordRun start.toList = true) : Profile where
  name := ⟨[start, "htc", "wand"], by simp, by simpa [hstart] using ⟨by decide, by decide⟩⟩
  title := "Wand"
  deviceType := "wand"
  device := "XRT_DEVICE_VIVE_WAND"
  subactionPaths := ["/user/hand/left"]
  subPaths := [wandTrigger]

/-- Two wands. -/
def wands : Document := ⟨[wand "first" (by decide), wand "second" (by decide)]⟩

/-- The value of a wand. -/
def wandValue : Json := .obj [
  ("title", .str "Wand"),
  ("type", .str "wand"),
  ("monado_device", .str "XRT_DEVICE_VIVE_WAND"),
  ("subaction_paths", .arr [.str "/user/hand/left"]),
  ("subpaths", .obj [("/input/trigger", wandTrigger.write)])]

/-- The value of both. -/
def wandsValue : Json := .obj [("profiles", .obj [
  ("/interaction_profiles/first/htc/wand", wandValue),
  ("/interaction_profiles/second/htc/wand", wandValue)])]

theorem wellKeyed_wandsValue : wandsValue.WellKeyed := by
  simp [wandsValue, wandValue, wandTrigger.wellKeyed_write, Json.WellKeyed, Json.MembersWellKeyed,
    Json.ItemsWellKeyed, Json.Fields.keys]

theorem read_wandsValue : Document.read wandsValue = .ok wands := by
  have hwand : ∀ {start : String} {hstart : Text.isWordRun start.toList = true} {key : String},
      (wand start hstart).name.path = key → (wand start hstart).SpelledBy (key, wandValue) := fun hkey =>
    ⟨hkey, _, ⟨_, .named _, rfl, rfl, rfl, rfl, rfl⟩, .cons wandTrigger.spelledBy_write .nil⟩
  refine (Document.Lists.read_eq_ok_iff ⟨_, rfl, rfl⟩ wellKeyed_wandsValue).mpr ?_
  exact .cons (hwand (by decide)) (.cons (hwand (by decide)) .nil)

theorem hasErrors_wands : hasErrors (issues wands 8) = false := rfl

/-- Two wands without errors that share their names for SteamVR, and differ in front of the vendor. -/
theorem wands_differ_in_front :
    hasErrors (issues wands 8) = false ∧ ∃ p q, wands.profiles = [p, q] ∧ p.name.stem ≠ q.name.stem ∧
      p.name.steamvrControllerType = q.name.steamvrControllerType ∧ p.name.front ≠ q.name.front := by
  obtain ⟨hfirst, -⟩ := List.pairwise_cons.mp (derived_names_collide_iff hasErrors_wands)
  obtain ⟨hstem, -, htype, hfront, -⟩ := hfirst _ (List.mem_singleton_self _)
  exact ⟨hasErrors_wands, _, _, rfl, hstem, htype.mpr rfl, fun heq => hfront heq rfl⟩

/-- The checks find no error in a document whose profiles share their names for SteamVR. -/
theorem wands_share_steamvr_names :
    Document.read wandsValue = .ok wands ∧ hasErrors (issues wands 8) = false ∧
      ¬wands.profiles.Pairwise fun p q => p.name.stem ≠ q.name.stem ∧
        p.name.steamvrInputProfilePath ≠ q.name.steamvrInputProfilePath ∧
        p.name.steamvrControllerType ≠ q.name.steamvrControllerType := by
  refine ⟨read_wandsValue, hasErrors_wands, fun hpairs => ?_⟩
  obtain ⟨hfirst, -⟩ := List.pairwise_cons.mp hpairs
  obtain ⟨-, hpath, -⟩ := hfirst _ (List.mem_singleton_self _)
  exact hpath rfl

end Check

end ProfileBindings
