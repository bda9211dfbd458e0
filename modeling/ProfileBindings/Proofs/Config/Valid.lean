import Mathlib.Data.List.Basic
import ProfileBindings.Config.Basic

/-!
# Valid configurations

Main statements: `Config.fault?_eq_none_iff` and `Config.check_eq_ok_iff`, a configuration passes its check
exactly if each of its fields is as it should be.
-/

namespace ProfileBindings.Config

/-- Each field is as it should be. -/
structure Valid (c : Config) : Prop where
  headerInclude : isIncludePath c.headerInclude = true
  definesInclude : isIncludePath c.definesInclude = true
  verifyPrefix : Text.isIdentifier c.verifyPrefix = true
  pathsPerTemplate : leastPathsPerTemplate ≤ c.pathsPerTemplate
  extraInputs : ∀ name ∈ c.extraInputs, isEnumeratorOf .input name = true
  inputFallback : isEnumeratorOf .input c.inputFallback = true
  outputFallback : isEnumeratorOf .output c.outputFallback = true
  license : ∀ license ∈ c.spdxLicense, isLicense license = true

/-- The inputs of a configuration are looked at together, the fallback last. -/
theorem find?_inputs_eq_none_iff {c : Config} :
    (c.extraInputs ++ [c.inputFallback]).find? (fun name => !isEnumeratorOf .input name) = none ↔
      (∀ name ∈ c.extraInputs, isEnumeratorOf .input name = true) ∧
        isEnumeratorOf .input c.inputFallback = true := by
  simp

theorem fault?_eq_none_iff {c : Config} : c.fault? = none ↔ c.Valid := by
  constructor
  · intro h
    -- Every test in front of the last gives a fault or goes on to the next.
    unfold fault? at h
    split at h
    · contradiction
    next hheader =>
    split at h
    · contradiction
    next hdefines =>
    split at h
    · contradiction
    next hprefix =>
    split at h
    · contradiction
    next hpaths =>
    split at h
    · contradiction
    next hinputs =>
    split at h
    · contradiction
    next houtput =>
    have hinputs' := find?_inputs_eq_none_iff.mp hinputs
    refine ⟨by simpa using hheader, by simpa using hdefines, by simpa using hprefix,
      Nat.le_of_not_lt hpaths, hinputs'.1, hinputs'.2, by simpa using houtput, ?_⟩
    intro license hlicense
    rw [Option.mem_def.mp hlicense] at h
    by_contra hbad
    simp [hbad] at h
  · intro h
    have hinputs := find?_inputs_eq_none_iff.mpr ⟨h.extraInputs, h.inputFallback⟩
    have hpaths : ¬c.pathsPerTemplate < leastPathsPerTemplate := Nat.not_lt.mpr h.pathsPerTemplate
    simp only [fault?, h.headerInclude, h.definesInclude, h.verifyPrefix, hpaths, hinputs,
      h.outputFallback, Bool.not_true, Bool.false_eq_true, if_false]
    cases hlicense : c.spdxLicense with
    | none => rfl
    | some license => exact if_pos (h.license license hlicense)

theorem check_eq_ok_iff {c : Config} : c.check = .ok () ↔ c.Valid := by
  rw [← fault?_eq_none_iff, check]
  cases c.fault? <;> simp

/-! ## What the tests of a field mean -/

theorem isEnumeratorOf_iff {direction : Direction} {name : String} :
    isEnumeratorOf direction name = true ↔
      Text.isIdentifier name = true ∧ Text.hasPrefix direction.enumeratorStart name = true := by
  simp [isEnumeratorOf]

theorem not_mem_of_not_breaksLine {s : String} (h : breaksLine s = false) : '\n' ∉ s.toList := by
  intro hmem
  have hbreaks : breaksLine s = true := List.any_eq_true.mpr ⟨_, hmem, rfl⟩
  simp [h] at hbreaks

/-- An include ends with its quote. -/
theorem not_mem_of_isIncludePath {s : String} (h : isIncludePath s = true) :
    '\n' ∉ s.toList ∧ '"' ∉ s.toList := by
  have h' : (s ≠ "" ∧ '"' ∉ s.toList) ∧ breaksLine s = false := by simpa [isIncludePath] using h
  exact ⟨not_mem_of_not_breaksLine h'.2, h'.1.2⟩

/-- A license ends with its line. -/
theorem not_mem_of_isLicense {s : String} (h : isLicense s = true) : '\n' ∉ s.toList := by
  have h' : s ≠ "" ∧ breaksLine s = false := by simpa [isLicense] using h
  exact not_mem_of_not_breaksLine h'.2

end ProfileBindings.Config
