import ProfileBindings.Proofs.Command.Check
import ProfileBindings.Proofs.Json.Reading
import ProfileBindings.Proofs.Schema.Reading
import ProfileBindings.Proofs.Yaml.Reading

/-!
# Documents that are loaded

In either format the value of a text has each key of an object once. With the built-in schema, a file therefore
holds the document of an input as soon as its value follows the grammar: nothing is accepted that has no model.

Main statements:
* `wellKeyed_of_read` : the keys of a value that was read are distinct;
* `exists_hasModel_iff` : when the files of an input hold a document.
-/

namespace ProfileBindings.Command

open Files (Tree)

variable {t : Tree} {path : String} {v : Json} {input : Input} {d : Document}

/-- What has been written as a text is read as the text. -/
theorem hasText_of_read {text : String} (h : t.read path = .ok text.toUTF8) : HasText t path text := by
  have hvalid : text.toUTF8.IsValidUTF8 := text.isValidUTF8
  rw [HasText, h, Except.bind, Host.textOf, String.fromUTF8?, dif_pos hvalid]
  rfl

/-- In the value of a text of either format, no object has a key twice. -/
theorem wellKeyed_of_read {format : DocumentFormat} {text : String} (h : format.read text = .ok v) :
    v.WellKeyed := by
  cases format with
  | json => exact Json.wellKeyed_of_read (mapError_eq_ok_iff.mp h)
  | yaml => exact Yaml.wellKeyed_of_read (mapError_eq_ok_iff.mp h)

theorem HasValue.wellKeyed (h : HasValue t path v) : v.WellKeyed := by
  obtain ⟨text, -, hread⟩ := h
  exact wellKeyed_of_read hread

/-- What the built-in schema accepts follows the grammar. -/
theorem isDocument_of_check (h : Validator.builtIn.check v = .ok ()) : Schema.IsDocument v :=
  Schema.violations_bindings_eq_nil_iff.mp (Schema.check_builtIn_eq_ok_iff.mp h)

theorem check_of_isDocument (h : Schema.IsDocument v) : Validator.builtIn.check v = .ok () :=
  Schema.check_builtIn_eq_ok_iff.mpr (Schema.violations_bindings_eq_nil_iff.mpr h)

/-- With the built-in schema, there is a model exactly if the document follows the grammar. -/
theorem exists_hasModel_iff (hschema : input.schemaDirectory = none) :
    (∃ d, HasModel t input d) ↔ ∃ v, HasValue t input.document v ∧ Schema.IsDocument v := by
  constructor
  · rintro ⟨d, v, validator, hvalue, hvalidator, hcheck, -⟩
    rw [hschema] at hvalidator
    obtain rfl : validator = .builtIn := hvalidator
    exact ⟨v, hvalue, isDocument_of_check hcheck⟩
  · rintro ⟨v, hvalue, hdocument⟩
    obtain ⟨d, _, hread, -⟩ := Document.read_of_isDocument hvalue.wellKeyed hdocument
    refine ⟨d, v, .builtIn, hvalue, ?_, check_of_isDocument hdocument, hread⟩
    rw [hschema]
    rfl

/-- With the built-in schema, the model has profiles, and each is shaped as the grammar says. -/
theorem HasModel.nonempty_and_shaped (h : HasModel t input d) (hschema : input.schemaDirectory = none) :
    d.profiles ≠ [] ∧ ∀ p ∈ d.profiles, p.Shaped := by
  obtain ⟨v, validator, hvalue, hvalidator, hcheck, hread⟩ := h
  rw [hschema] at hvalidator
  obtain rfl : validator = .builtIn := hvalidator
  obtain ⟨d', profiles, hread', -, hsome, hshaped, hstands⟩ :=
    Document.read_of_isDocument hvalue.wellKeyed (isDocument_of_check hcheck)
  obtain rfl : d = d' := Except.ok.inj (hread.symm.trans hread')
  refine ⟨fun hnil => ?_, hshaped⟩
  rw [hnil, List.forall₂_nil_left_iff] at hstands
  exact hsome hstands

end ProfileBindings.Command
