import ProfileBindings.C.Literal
import ProfileBindings.Enumerator.Names

/-!
# Name functions

For each direction two functions: one gives the name of an enumerator, the other the enumerator of a name.
An enumerator without name is called unknown; an unknown name stands for the fallback.

Main definitions: `NameFunctions`, `NameFunctions.print`, `NameFunctions.prototypes`.
-/

namespace ProfileBindings.Artifact

/-- The two functions of one direction: the enumerators that they know, and the fallback. -/
structure NameFunctions where
  direction : Direction
  names : List String
  fallback : String

namespace NameFunctions

/-- What the function from enumerators to names takes and gives. -/
def stringSignature (direction : Direction) : List String :=
  ["const char *",
    "xrt_" ++ direction.word ++ "_name_string(enum xrt_" ++ direction.word ++ "_name "
      ++ direction.word ++ ")"]

/-- What the function from names to enumerators takes and gives. -/
def enumSignature (direction : Direction) : List String :=
  ["enum xrt_" ++ direction.word ++ "_name",
    "xrt_" ++ direction.word ++ "_name_enum(const char *" ++ direction.word ++ ")"]

/-- The function from enumerators to names. -/
def stringLines (f : NameFunctions) : List String :=
  stringSignature f.direction
  ++ ["\x7b", "\tswitch(" ++ f.direction.word ++ ")", "\t\x7b"]
  ++ f.names.map (fun name => "\tcase " ++ name ++ ": return \"" ++ name ++ "\";")
  ++ ["\tdefault: return \"UNKNOWN\";", "\t\x7d", "\x7d"]

/-- The function from names to enumerators. -/
def enumLines (f : NameFunctions) : List String :=
  enumSignature f.direction
  ++ ["\x7b"]
  ++ f.names.map (fun name =>
    "\tif(strcmp(\"" ++ name ++ "\", " ++ f.direction.word ++ ") == 0) return " ++ name ++ ";")
  ++ ["\treturn " ++ f.fallback ++ ";", "\x7d"]

/-- The definitions of both functions. -/
def print (f : NameFunctions) : String := C.lines (f.stringLines ++ f.enumLines)

/-- The declarations of both functions. -/
def prototypes (direction : Direction) : String :=
  "\n".intercalate (stringSignature direction) ++ ";\n\n"
    ++ "\n".intercalate (enumSignature direction) ++ ";\n\n"

end NameFunctions

end ProfileBindings.Artifact
