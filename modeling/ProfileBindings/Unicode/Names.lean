import ProfileBindings.Unicode.Derived
import ProfileBindings.Unicode.Scripts

/-!
# Names of properties

Properties of characters are asked for by names, in which case, blanks, hyphens and underscores do not matter,
nor does the word `is` in front. A name alone stands for a property that holds or does not hold, for a general
category or a group of them, or for a script; with a value behind it, it says which of these is meant.

Main definitions: `looseName`, `propertyNamed?`, `propertyWithValue?`.
-/

namespace ProfileBindings.Unicode

/-- A name without what does not matter in it. One word is kept whole, for what remains of it would be a
different name. -/
def looseName (name : List Char) : String :=
  let isMarked := match name with
    | i :: s :: _ => i.toLower == 'i' && s.toLower == 's'
    | _ => false
  let kept := (if isMarked then name.drop 2 else name).filter fun c =>
    c.toNat < 0x80 && !(c == ' ' || c == '_' || c == '-')
  let text := String.ofList (kept.map Char.toLower)
  if isMarked && text == "c" then "isc" else text

/-- The properties that hold or do not hold, by their names. -/
def binaryProperties : List (List String × (Nat → Bool)) := [
  (["asciihexdigit", "ahex"], asciiHexDigit.contains),
  (["alphabetic", "alpha"], isAlphabetic),
  (["bidicontrol", "bidic"], bidiControl.contains),
  (["bidimirrored", "bidim"], bidiMirrored.contains),
  (["caseignorable", "ci"], isCaseIgnorable),
  (["cased"], isCased),
  (["dash"], dash.contains),
  (["defaultignorablecodepoint", "di"], isDefaultIgnorable),
  (["deprecated", "dep"], deprecated.contains),
  (["diacritic", "dia"], diacritic.contains),
  (["emoji"], emoji.contains),
  (["emojicomponent", "ecomp"], emojiComponent.contains),
  (["emojimodifier", "emod"], emojiModifier.contains),
  (["emojimodifierbase", "ebase"], emojiModifierBase.contains),
  (["emojipresentation", "epres"], emojiPresentation.contains),
  (["extendedpictographic", "extpict"], extendedPictographic.contains),
  (["extender", "ext"], extender.contains),
  (["graphemebase", "grbase"], isGraphemeBase),
  (["graphemeextend", "grext"], isGraphemeExtend),
  (["hexdigit", "hex"], hexDigit.contains),
  (["hyphen"], hyphen.contains),
  (["idsbinaryoperator", "idsb"], binaryDescription.contains),
  (["idstrinaryoperator", "idst"], trinaryDescription.contains),
  (["idcontinue", "idc"], isIdContinue),
  (["idstart", "ids"], isIdStart),
  (["ideographic", "ideo"], ideographic.contains),
  (["joincontrol", "joinc"], joinControl.contains),
  (["logicalorderexception", "loe"], logicalOrderException.contains),
  (["lowercase", "lower"], isLowercase),
  (["math"], isMath),
  (["noncharactercodepoint", "nchar"], noncharacter.contains),
  (["otheralphabetic", "oalpha"], otherAlphabetic.contains),
  (["othergraphemeextend", "ogrext"], otherGraphemeExtend.contains),
  (["otheridcontinue", "oidc"], otherIdContinue.contains),
  (["otheridstart", "oids"], otherIdStart.contains),
  (["otherlowercase", "olower"], otherLowercase.contains),
  (["othermath", "omath"], otherMath.contains),
  (["otheruppercase", "oupper"], otherUppercase.contains),
  (["patternsyntax", "patsyn"], patternSyntax.contains),
  (["patternwhitespace", "patws"], patternWhiteSpace.contains),
  (["prependedconcatenationmark", "pcm"], prependedConcatenationMark.contains),
  (["quotationmark", "qmark"], quotationMark.contains),
  (["radical"], radical.contains),
  (["regionalindicator", "ri"], regionalIndicator.contains),
  (["sentenceterminal", "sterm"], sentenceTerminal.contains),
  (["softdotted", "sd"], softDotted.contains),
  (["terminalpunctuation", "term"], terminalPunctuation.contains),
  (["unifiedideograph", "uideo"], unifiedIdeograph.contains),
  (["uppercase", "upper"], isUppercase),
  (["variationselector", "vs"], variationSelector.contains),
  (["whitespace", "wspace", "space"], whiteSpace.contains),
  (["xidcontinue", "xidc"], isXidContinue),
  (["xidstart", "xids"], isXidStart)]

open Category in
/-- The categories and their groups, by their names. Half characters belong to no text, so that their
category cannot be asked for. -/
def categoryNames : List (List String × List Category) := [
  (["lu", "uppercaseletter"], [uppercaseLetter]),
  (["ll", "lowercaseletter"], [lowercaseLetter]),
  (["lt", "titlecaseletter"], [titlecaseLetter]),
  (["lc", "casedletter"], [uppercaseLetter, lowercaseLetter, titlecaseLetter]),
  (["lm", "modifierletter"], [modifierLetter]),
  (["lo", "otherletter"], [otherLetter]),
  (["l", "letter"], letters),
  (["mn", "nonspacingmark"], [nonspacingMark]),
  (["mc", "spacingmark"], [spacingMark]),
  (["me", "enclosingmark"], [enclosingMark]),
  (["m", "mark", "combiningmark"], marks),
  (["nd", "decimalnumber", "digit"], [decimalNumber]),
  (["nl", "letternumber"], [letterNumber]),
  (["no", "othernumber"], [otherNumber]),
  (["n", "number"], [decimalNumber, letterNumber, otherNumber]),
  (["pc", "connectorpunctuation"], [connectorPunctuation]),
  (["pd", "dashpunctuation"], [dashPunctuation]),
  (["ps", "openpunctuation"], [openPunctuation]),
  (["pe", "closepunctuation"], [closePunctuation]),
  (["pi", "initialpunctuation"], [initialPunctuation]),
  (["pf", "finalpunctuation"], [finalPunctuation]),
  (["po", "otherpunctuation"], [otherPunctuation]),
  (["p", "punctuation", "punct"], [connectorPunctuation, dashPunctuation, openPunctuation,
    closePunctuation, initialPunctuation, finalPunctuation, otherPunctuation]),
  (["sm", "mathsymbol"], [mathSymbol]),
  (["sc", "currencysymbol"], [currencySymbol]),
  (["sk", "modifiersymbol"], [modifierSymbol]),
  (["so", "othersymbol"], [otherSymbol]),
  (["s", "symbol"], [mathSymbol, currencySymbol, modifierSymbol, otherSymbol]),
  (["zs", "spaceseparator"], [spaceSeparator]),
  (["zl", "lineseparator"], [lineSeparator]),
  (["zp", "paragraphseparator"], [paragraphSeparator]),
  (["z", "separator"], [spaceSeparator, lineSeparator, paragraphSeparator]),
  (["cc", "control", "cntrl"], [control]),
  (["cf", "format"], [format]),
  (["co", "privateuse"], [privateUse]),
  (["cn", "unassigned"], [unassigned]),
  (["c", "other"], [control, format, surrogate, privateUse, unassigned])]

/-- The entry of a table that has a name. -/
def named? {α : Type} (table : List (List String × α)) (name : String) : Option α :=
  (table.find? (·.1.contains name)).map Prod.snd

/-- The general category, or the group of categories, with a name. -/
def categoryNamed? (name : String) : Option (Nat → Bool) :=
  match name with
  | "any" => some fun _ => true
  | "assigned" => some fun n => categoryOf n ≠ .unassigned
  | "ascii" => some fun n => decide (n < 0x80)
  | name => (named? categoryNames name).map fun kinds n => kinds.contains (categoryOf n)

/-- What a name alone stands for. -/
def propertyNamed? (name : List Char) : Option (Nat → Bool) :=
  let name := looseName name
  match named? binaryProperties name, categoryNamed? name with
  | some holds, _ => some holds
  | none, some holds => some holds
  | none, none => (script? name).map isInScript

/-- What a name with a value stands for. -/
def propertyWithValue? (name value : List Char) : Option (Nat → Bool) :=
  let value := looseName value
  match looseName name with
  | "gc" | "generalcategory" => categoryNamed? value
  | "sc" | "script" => (script? value).map isInScript
  | "scx" | "scriptextensions" => (script? value).map isUsedWith
  | _ => none

end ProfileBindings.Unicode
