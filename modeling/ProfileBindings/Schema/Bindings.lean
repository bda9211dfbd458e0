import ProfileBindings.Schema.Validation

/-!
# The schema of bindings documents

The shape that a document has to have before its meaning is looked at: which properties are there and of
which type, and how names, paths and enumerators are written.

Main definitions: the patterns `profilePath`, `identifier`, `subactionPath`, `subPathPath` and
`componentName`, and the schema `bindings`.
-/

namespace ProfileBindings.Schema

/-! ## Patterns -/

section Patterns

open Pattern

/-- The characters of a text one behind the other. -/
def literal (s : String) : Pattern :=
  s.toList.foldr (fun c p => seq (char (.single c)) p) nothing

/-- Letters, digits and underscore. -/
def wordChar : Pattern := char .wordChars

/-- Small letters, digits and underscore. -/
def smallWordChar : Pattern := char (.ranges [('a', 'z'), ('0', '9'), ('_', '_')])

/-- Letters and underscore. -/
def wordStart : Pattern := char (.ranges [('A', 'Z'), ('a', 'z'), ('_', '_')])

/-- A pattern that takes all of the text. -/
def whole (p : Pattern) : Pattern := seq start (seq p finish)

/-- The path of a profile. -/
def profilePath : Pattern :=
  whole (seq (literal "/interaction_profiles/")
    (seq (plus wordChar) (plus (seq (literal "/") (plus wordChar)))))

/-- An identifier. -/
def identifier : Pattern := whole (seq wordStart (star wordChar))

/-- A subaction path. -/
def subactionPath : Pattern :=
  whole (seq (literal "/user") (plus (seq (literal "/") (plus smallWordChar))))

/-- The path of a sub-path. -/
def subPathPath : Pattern := whole (plus (seq (literal "/") (plus smallWordChar)))

/-- The name of a component. -/
def componentName : Pattern := whole (plus smallWordChar)

end Patterns

/-! ## Parts -/

/-- A text that is not empty. -/
def someText : Schema := .all [.hasType [.string], .minLength 1]

/-- A text that matches a pattern. -/
def textLike (written : String) (p : Pattern) : Schema :=
  .all [.hasType [.string], .pattern written p]

/-- Names that match a pattern. -/
def nameLike (written : String) (p : Pattern) : Schema := .all [.pattern written p]

/-- The schema of identifiers. -/
def identifierSchema : Schema := textLike "^[A-Za-z_][A-Za-z0-9_]*$" identifier

/-- The schema of one sub-path. -/
def subPathSchema : Schema := .all [
  .hasType [.object],
  .required ["type", "localized_name", "components", "monado_bindings"],
  .properties [
    ("type", someText),
    ("localized_name", someText),
    ("side", someText),
    ("components", .all [
      .hasType [.array],
      .minItems 1,
      .items (textLike "^[a-z0-9_]+$" componentName),
      .uniqueItems]),
    ("monado_bindings", .all [
      .hasType [.object],
      .propertiesOr [] (.all [
        .oneOf [.all [.named "#/$defs/identifier"], .all [.hasType [.null]]]])])]]

/-- The schema of one profile. -/
def profileSchema : Schema := .all [
  .hasType [.object],
  .required ["title", "type", "monado_device", "subaction_paths", "subpaths"],
  .properties [
    ("title", someText),
    ("type", someText),
    ("monado_device", .all [.named "#/$defs/identifier"]),
    ("subaction_paths", .all [
      .hasType [.array],
      .items (textLike "^/user(/[a-z0-9_]+)+$" subactionPath),
      .uniqueItems]),
    ("subpaths", .all [
      .hasType [.object],
      .propertyNames (nameLike "^(/[a-z0-9_]+)+$" subPathPath),
      .propertiesOr [] (.all [.named "#/$defs/subpath"])])]]

/-- The schema of a document. -/
def documentSchema : Schema := .all [
  .hasType [.object],
  .required ["profiles"],
  .properties [
    ("profiles", .all [
      .hasType [.object],
      .minProperties 1,
      .propertyNames
        (nameLike "^/interaction_profiles/[A-Za-z0-9_]+(/[A-Za-z0-9_]+)+$" profilePath),
      .propertiesOr [] (.all [.named "#/$defs/profile"])])]]

/-- The schema of bindings documents with its parts. -/
def bindings : Root where
  schema := documentSchema
  library := [
    ("#/$defs/identifier", identifierSchema),
    ("#/$defs/profile", profileSchema),
    ("#/$defs/subpath", subPathSchema)]

end ProfileBindings.Schema
