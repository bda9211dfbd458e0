import ProfileBindings.C.Literal
import ProfileBindings.Config.Basic
import ProfileBindings.Profile.Buckets

/-!
# Verify functions

For each profile a function says whether a text is one of its canonical paths. It switches on the length of
the text and compares it with the paths of that length only.

Main definitions: `VerifyFunction`, `VerifyFunction.ofProfile`, `VerifyFunction.print`,
`VerifyFunction.prototype`.
-/

namespace ProfileBindings.Artifact

/-- A function that accepts the paths of its cases, each case holding the paths of one length. -/
structure VerifyFunction where
  name : String
  cases : List (Nat × List String)

namespace VerifyFunction

/-- The name of the function of a profile. -/
def nameOf (config : Config) (profile : ProfileName) : String :=
  config.verifyPrefix ++ profile.stem ++ "_subpath"

/-- The function of a profile. -/
def ofProfile (config : Config) (p : Profile) : VerifyFunction where
  name := nameOf config p.name
  cases := (Buckets.ofProfile p).toList

/-- What the function takes and gives, behind its name. -/
def signature (name : String) : String := "\nbool\n" ++ name ++ "(const char *str, size_t length)"

/-- One comparison, and the way to the next one. -/
def printComparison (path : String) : String :=
  "if (strcmp(str, " ++ C.Literal.quote path ++ ") == 0) \x7b\n\t\t\treturn true;\n\t\t\x7d else "

/-- The case of one length. -/
def printCase (length : Nat) (paths : List String) : String :=
  "\tcase " ++ toString length ++ ":\n\t\t" ++ String.join (paths.map printComparison)
    ++ "\x7b\n\t\t\treturn false;\n\t\t\x7d\n"

/-- The definition of the function. -/
def print (f : VerifyFunction) : String :=
  signature f.name ++ "\n\x7b\n\tswitch (length) \x7b\n"
    ++ String.join (f.cases.map fun entry => printCase entry.1 entry.2)
    ++ "\tdefault:\n\t\treturn false;\n\t\x7d\n\x7d\n"

/-- The declaration of a function by its name. -/
def prototype (name : String) : String := signature name ++ ";\n"

end VerifyFunction

end ProfileBindings.Artifact
