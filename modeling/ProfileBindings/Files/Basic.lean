import ProfileBindings.Text.Words

/-!
# Files

A path is a text whose components stand between slashes; empty components and single dots mean nothing. How
a path ends says what is done with the file: in which format a document is read from it, and which of the two
artifacts of a document it receives.

Main definitions:
* `Files.Error` : why a file cannot be read or written;
* `Path.components`, `Path.fileName?`, `Path.extension?`, `Path.join` : the parts of a path;
* `DocumentFormat.ofPath` : the format of a document;
* `Artifact.Kind.ofPath?` : the artifact that an output receives.
-/

namespace ProfileBindings

/-! ## Errors -/

namespace Files

/-- Why a file cannot be read or written. -/
inductive Error where
  /-- Nothing is there. -/
  | notFound
  /-- What leads to the file goes through something that is no directory. -/
  | notDirectory
  /-- A directory is there. -/
  | isDirectory
  /-- A name or the whole path is longer than a system allows. -/
  | nameTooLong
  /-- The path has a character that no path has. -/
  | invalidName
  /-- The file holds no text. -/
  | notText
  /-- Another reason that the system gave. -/
  | other (reason : String)
deriving DecidableEq, Repr

/-- An error in words, with the number that systems have for it. -/
def Error.message : Error → String
  | notFound => "No such file or directory (os error 2)"
  | notDirectory => "Not a directory (os error 20)"
  | isDirectory => "Is a directory (os error 21)"
  | nameTooLong => "File name too long (os error 36)"
  | invalidName => "file name contained an unexpected NUL byte"
  | notText => "stream did not contain valid UTF-8"
  | other reason => reason

end Files

/-! ## Paths -/

namespace Path

/-- The components of a path. -/
def components (path : String) : List String :=
  ((Text.segments (· == '/') path.toList).map String.ofList).filter fun s => s ≠ "" && s ≠ "."

/-- The path starts at the root of the file system. -/
def isAbsolute (path : String) : Bool := Text.hasPrefix "/" path

/-- The name of the file: the last component, unless it leads up. -/
def fileName? (path : String) : Option String :=
  match (components path).getLast? with
  | none => none
  | some name => if name = ".." then none else some name

/-- What stands behind the last dot of a file name, if something stands in front of it. -/
def extensionOfName? (name : String) : Option String :=
  let behind := name.toList.reverse.takeWhile (· != '.')
  let front := name.toList.reverse.drop (behind.length + 1)
  if front.isEmpty then none else some (String.ofList behind.reverse)

/-- The extension of the file that a path names. -/
def extension? (path : String) : Option String := (fileName? path).bind extensionOfName?

/-- The path of a file in a directory. An empty path is the current directory. -/
def join (directory name : String) : String :=
  if directory = "" || Text.hasSuffix "/" directory then directory ++ name
  else directory ++ "/" ++ name

end Path

/-! ## What a path calls for -/

/-- The format of a document's text. -/
inductive DocumentFormat where
  | json
  | yaml
deriving DecidableEq, Repr

/-- The format that the name of a file calls for: YAML for its two extensions, otherwise JSON. -/
def DocumentFormat.ofPath (path : String) : DocumentFormat :=
  match Path.extension? path with
  | some "yaml" => .yaml
  | some "yml" => .yaml
  | _ => .json

/-- The name of a format. -/
def DocumentFormat.word : DocumentFormat → String
  | json => "Json"
  | yaml => "Yaml"

namespace Artifact

/-- The two artifacts. -/
inductive Kind where
  | source
  | header
deriving DecidableEq, Repr

namespace Kind

/-- How the paths of an artifact end. -/
def suffix : Kind → String
  | source => "generated_bindings.c"
  | header => "generated_bindings.h"

/-- The artifact that a path receives, if any. -/
def ofPath? (path : String) : Option Kind :=
  if Text.hasSuffix source.suffix path then some source
  else if Text.hasSuffix header.suffix path then some header
  else none

end Kind

end Artifact

end ProfileBindings
