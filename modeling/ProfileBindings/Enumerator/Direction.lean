import ProfileBindings.Decode.Record
import ProfileBindings.Text.Words

/-!
# Directions

An enumerator of the runtime is an input or an output, and its name tells which. So does the name of a
component: haptics are driven by the runtime, everything else feeds it.

Main definitions: `Direction`, `Direction.ofEnumerator?`, `Direction.ofComponent`, `Direction.read`.
-/

namespace ProfileBindings

/-- Whether something feeds the runtime or is driven by it. -/
inductive Direction where
  | input
  | output
deriving DecidableEq, Repr

namespace Direction

/-- The word for a direction. -/
def word : Direction → String
  | input => "input"
  | output => "output"

/-- How the enumerators of a direction begin. -/
def enumeratorStart : Direction → String
  | input => "XRT_INPUT_"
  | output => "XRT_OUTPUT_"

/-- The direction of an enumerator, told from its name. -/
def ofEnumerator? (name : String) : Option Direction :=
  if Text.hasPrefix input.enumeratorStart name then some input
  else if Text.hasPrefix output.enumeratorStart name then some output
  else none

/-- The direction of a component, told from its name. -/
def ofComponent (component : String) : Direction :=
  if component = "haptic" then output else input

/-- The direction that a word stands for. -/
def read (s : String) : Except Decode.Fault Direction :=
  if s = input.word then .ok input
  else if s = output.word then .ok output
  else .error (.unknownVariant s [input.word, output.word])

end Direction

end ProfileBindings
