import ProfileBindings.Profile.Component
import ProfileBindings.Sorted.Set

/-!
# Enumerators of a document

The enumerators that the components of a document are bound to, inputs and outputs apart. Which of the two
an enumerator belongs to is told by the component, not by the enumerator. Some inputs are never bound but
have names all the same; they are given from outside.

Main definitions: `EnumeratorNames`, `EnumeratorNames.ofDocument`, `EnumeratorNames.standardExtras`.
-/

namespace ProfileBindings

/-- Enumerators by direction, each once and in ascending order. -/
structure EnumeratorNames where
  inputs : Sorted.Set String
  outputs : Sorted.Set String

namespace EnumeratorNames

/-- The inputs that no component is bound to. -/
def standardExtras : List String := [
  "XRT_INPUT_GENERIC_HEAD_POSE",
  "XRT_INPUT_GENERIC_HEAD_DETECT",
  "XRT_INPUT_GENERIC_HAND_TRACKING_LEFT",
  "XRT_INPUT_GENERIC_HAND_TRACKING_RIGHT",
  "XRT_INPUT_GENERIC_TRACKER_POSE"]

/-- The enumerators of one direction. -/
def of (names : EnumeratorNames) : Direction → Sorted.Set String
  | .input => names.inputs
  | .output => names.outputs

/-- The enumerator is among those of a direction. -/
def contains (names : EnumeratorNames) (direction : Direction) (name : String) : Bool :=
  (names.of direction).contains name

/-- The enumerators that components of one direction are bound to. -/
def bound (direction : Direction) (components : List Component) : List String :=
  (components.filter (·.direction = direction)).filterMap (·.binding.enumerator?)

/-- The enumerators of a document, with extra inputs. -/
def ofDocument (d : Document) (extraInputs : List String) : EnumeratorNames :=
  let components := d.profiles.flatMap Profile.expand
  { inputs := .ofList (bound .input components ++ extraInputs)
    outputs := .ofList (bound .output components) }

end EnumeratorNames

end ProfileBindings
