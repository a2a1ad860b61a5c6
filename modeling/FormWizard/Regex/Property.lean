import FormWizard.Regex.CharClass
import FormWizard.Unicode.Age
import FormWizard.Unicode.ScriptExtension
import FormWizard.Unicode.Segmentation

/-! Classes of characters by the properties that Unicode gives them: binary properties, general
categories, scripts, versions and the roles in dividing a text. All of them go by names.
-/

namespace FormWizard.Regex.CharClass

open Unicode

/-! ### General categories -/

/-- The code points in no category. -/
def unassigned : CharClass :=
  .complement (.table assigned)

/-- The categories whose codes start with the given letter, as one class. -/
def categoryGroup (letter : Char) : CharClass :=
  .table <| categories.flatMap fun (code, set) =>
    if code.toList.head? = some letter then set else []

/-- Long names of categories. -/
def categoryNames : List (String × String) := [
  ("control", "cc"), ("cntrl", "cc"), ("format", "cf"), ("unassigned", "cn"),
  ("privateuse", "co"), ("other", "c"), ("letter", "l"), ("casedletter", "lc"),
  ("lowercaseletter", "ll"), ("modifierletter", "lm"), ("otherletter", "lo"),
  ("titlecaseletter", "lt"), ("uppercaseletter", "lu"), ("mark", "m"), ("combiningmark", "m"),
  ("spacingmark", "mc"), ("enclosingmark", "me"), ("nonspacingmark", "mn"), ("number", "n"),
  ("decimalnumber", "nd"), ("digit", "nd"), ("letternumber", "nl"), ("othernumber", "no"),
  ("punctuation", "p"), ("punct", "p"), ("connectorpunctuation", "pc"), ("dashpunctuation", "pd"),
  ("closepunctuation", "pe"), ("finalpunctuation", "pf"), ("initialpunctuation", "pi"),
  ("otherpunctuation", "po"), ("openpunctuation", "ps"), ("symbol", "s"), ("currencysymbol", "sc"),
  ("modifiersymbol", "sk"), ("mathsymbol", "sm"), ("othersymbol", "so"), ("separator", "z"),
  ("lineseparator", "zl"), ("paragraphseparator", "zp"), ("spaceseparator", "zs")]

/-- The characters of a general category, by its code or its long name. Surrogates are no
characters, so there is no class of them.
-/
def category? (name : String) : Option CharClass :=
  let code := (categoryNames.lookup name).getD name
  match code with
  | "any" => some all
  | "ascii" => some (.range 0 0x7F)
  | "assigned" => some (.complement unassigned)
  | "c" => some (.union (categoryGroup 'C') unassigned)
  | "cn" => some unassigned
  | "cs" => none
  | "l" => some (.table letters)
  | "lc" => some (.table (uppercaseLetters ++ lowercaseLetters ++ titlecaseLetters))
  | "m" => some (.table marks)
  | "n" => some (categoryGroup 'N')
  | "p" => some (categoryGroup 'P')
  | "s" => some (categoryGroup 'S')
  | "z" => some (categoryGroup 'Z')
  | _ =>
    (categories.find? fun (known, _) => known.toList.map Char.toLower == code.toList).map
      fun (_, set) => .table set

/-! ### Binary properties -/

/-- Characters that another case has in their place in small letters. -/
def changedInSmall : CharClass :=
  .table (.ofTable ["130"] ++ lowercaseShifts.map Shift.source)

/-- Characters that another case has in their place in capitals. -/
def changedInCapitals : CharClass :=
  .union (.table (uppercaseShifts.map Shift.source))
    (ofRanges (uppercaseSequences.map fun (code, _) => (code, code)))

/-- Characters that have another form at the start of a title. Titles know no capitals of Georgian,
and have forms of their own for the letters that stand for two.
-/
def changedInTitles : CharClass :=
  .union (.diff changedInCapitals (.table (titlecaseLetters ++ georgianLetters)))
    (.table (.ofTable ["1C4-1CA/3 1F1"]))

/-- Characters that another one stands for, or several do, where case makes no difference. -/
def changedByFolding : CharClass :=
  .union (.diff (.table (foldingShifts.map Shift.source)) (.table (.ofTable ["1FBE 1FD3 1FE3"])))
    (.table (.ofTable [
      "DF 130 149 587 1E9A 1F80-1F87 1F90-1F97 1FA0-1FA7 1FB2-1FB4 1FB7 1FC2-1FC4 1FC7 1FF2-1FF4",
      "1FF7 FB00-FB04 FB06 FB13-FB17"]))

/-- Characters that may start an identifier. -/
def idStarts : CharClass :=
  .diff (.table (letters ++ letterNumbers ++ otherIdStarts))
    (.table (patternSyntax ++ patternWhiteSpace))

/-- Characters that may go on an identifier. -/
def idParts : CharClass :=
  .union idStarts <|
    .diff (.table (nonspacingMarks ++ spacingMarks ++ decimalDigits ++ connectors ++ otherIdParts))
      (.table (patternSyntax ++ patternWhiteSpace))

/-- Parts of identifiers that fall apart into others where equivalent texts are made the same. -/
def unstableIdParts : CharSet :=
  .ofTable ["37A 309B-309C FC5E-FC63 FDFA-FDFB FE70-FE7E/2"]

/-- Starts of identifiers that fall apart into others where equivalent texts are made the same. -/
def unstableIdStarts : CharSet :=
  unstableIdParts ++ .ofTable ["E33 EB3 FF9E-FF9F"]

/-- Code points that are passed over where they cannot be shown. -/
def defaultIgnorable : CharClass :=
  .diff (.table (otherDefaultIgnorable ++ formats ++ variationSelectors))
    (.table (whiteSpace ++ prependedMarks ++ .ofTable ["FFF9-FFFB 13430-1343F"]))

/-- Characters that others can extend. -/
def graphemeBases : CharClass :=
  .diff (.table assigned)
    (.table (controls ++ formats ++ surrogates ++ privateUse ++ lineSeparators
      ++ paragraphSeparators ++ graphemeExtenders))

/-- The binary properties, each under its names. -/
def properties : List (List String × CharClass) := [
  (["alpha", "alphabetic"], .table alphabetic),
  (["lower", "lowercase"], .table lowercase),
  (["upper", "uppercase"], .table uppercase),
  (["cased"], .table cased),
  (["ci", "caseignorable"], .table caseIgnorable),
  (["cwl", "changeswhenlowercased"], changedInSmall),
  (["cwu", "changeswhenuppercased"], changedInCapitals),
  (["cwt", "changeswhentitlecased"], changedInTitles),
  (["cwcm", "changeswhencasemapped"],
    .union changedInSmall (.union changedInCapitals changedInTitles)),
  (["cwcf", "changeswhencasefolded"], changedByFolding),
  (["sd", "softdotted"], .table softDotted),
  (["space", "wspace", "whitespace"], .table whiteSpace),
  (["ahex", "asciihexdigit"], .table asciiHexDigits),
  (["hex", "hexdigit"], .table hexDigits),
  (["math"], .table (mathSymbols ++ otherMath)),
  (["ids", "idstart"], idStarts),
  (["idc", "idcontinue"], idParts),
  (["xids", "xidstart"], .diff idStarts (.table unstableIdStarts)),
  (["xidc", "xidcontinue"], .diff idParts (.table unstableIdParts)),
  (["idcompatmathstart"], .table mathIdStarts),
  (["idcompatmathcontinue"], .table mathIdParts),
  (["patsyn", "patternsyntax"], .table patternSyntax),
  (["patws", "patternwhitespace"], .table patternWhiteSpace),
  (["dash"], .table dashPunctuation),
  (["hyphen"], .table hyphens),
  (["qmark", "quotationmark"], .table quotationMarks),
  (["term", "terminalpunctuation"], .table terminalPunctuation),
  (["sterm", "sentenceterminal"], .table sentenceTerminals),
  (["dia", "diacritic"], .table diacritics),
  (["ext", "extender"], .table extenders),
  (["grbase", "graphemebase"], graphemeBases),
  (["grext", "graphemeextend"], .table graphemeExtenders),
  (["grlink", "graphemelink"], .table graphemeLinks),
  (["mcm", "modifiercombiningmark"], .table modifierCombiningMarks),
  (["pcm", "prependedconcatenationmark"], .table prependedMarks),
  (["vs", "variationselector"], .table variationSelectors),
  (["ideo", "ideographic"], .table ideographs),
  (["uideo", "unifiedideograph"], .table unifiedIdeographs),
  (["radical"], .table radicals),
  (["idsu", "idsunaryoperator"], .table unaryIdsOperators),
  (["idsb", "idsbinaryoperator"], .table binaryIdsOperators),
  (["idst", "idstrinaryoperator"], .table trinaryIdsOperators),
  (["bidic", "bidicontrol"], .table bidiControls),
  (["bidim", "bidimirrored"], .table bidiMirrored),
  (["joinc", "joincontrol"], .table joinControls),
  (["loe", "logicalorderexception"], .table logicalOrderExceptions),
  (["di", "defaultignorablecodepoint"], defaultIgnorable),
  (["dep", "deprecated"], .table deprecatedCharacters),
  (["nchar", "noncharactercodepoint"], .table noncharacters),
  (["ri", "regionalindicator"], .table regionalIndicators),
  (["emoji"], .table emoji),
  (["epres", "emojipresentation"], .table emojiPresentation),
  (["emod", "emojimodifier"], .table emojiModifiers),
  (["ebase", "emojimodifierbase"], .table emojiModifierBases),
  (["ecomp", "emojicomponent"], .table emojiComponents),
  (["extpict", "extendedpictographic"], .table pictographs),
  (["oalpha", "otheralphabetic"], .table otherAlphabetic),
  (["olower", "otherlowercase"], .table otherLowercase),
  (["oupper", "otheruppercase"], .table otherUppercase),
  (["omath", "othermath"], .table otherMath),
  (["oids", "otheridstart"], .table otherIdStarts),
  (["oidc", "otheridcontinue"], .table otherIdParts),
  (["ogrext", "othergraphemeextend"], .table otherGraphemeExtenders),
  (["odi", "otherdefaultignorablecodepoint"], .table otherDefaultIgnorable)]

/-- The class that goes by a name in a list of classes with their names. -/
def lookup? (name : String) (classes : List (List String × CharClass)) : Option CharClass :=
  (classes.find? fun (names, _) => names.contains name).map Prod.snd

/-! ### Scripts -/

/-- The characters that belong to a script, by one of its names. -/
def script? (name : String) : Option CharClass :=
  (Unicode.script? name).map fun (_, set) => .table set

/-- The characters that are used in a script, by one of its names. -/
def usedInScript? (name : String) : Option CharClass := do
  let (names, set) ← Unicode.script? name
  let (used, others) := sharedWith names
  return .union (.diff (.table set) (.table others)) (.table used)

/-! ### Roles in dividing a text -/

/-- Formats that are no part of the characters next to them. -/
def separateFormats : CharClass :=
  .diff (.table formats) (.table (prependedMarks ++ .ofTable ["200C-200D E0020-E007F"]))

/-- The roles in what is seen as one character, each under its names. -/
def graphemeRoles : List (List String × CharClass) := [
  (["cr"], .char '\r'),
  (["lf"], .char '\n'),
  (["zwj"], .char '\u200D'),
  (["cn", "control"],
    .diff
      (.union (.table (lineSeparators ++ paragraphSeparators ++ controls ++ formats))
        (.inter unassigned defaultIgnorable))
      (.table (prependedMarks ++ shapelessExceptions))),
  (["ex", "extend"], .table (graphemeExtenders ++ emojiModifiers)),
  (["sm", "spacingmark"],
    .union (.table joinedVowels)
      (.diff (.table spacingMarks) (.table (graphemeExtenders ++ separateSpacingMarks)))),
  (["pp", "prepend"], .table (prependedMarks ++ prependedLetters)),
  (["ri", "regionalindicator"], .table regionalIndicators),
  (["l"], .table leadingJamo),
  (["v"], .table vowelJamo),
  (["t"], .table trailingJamo),
  (["lv"], .table openHangulSyllables),
  (["lvt"], .diff (.table hangulSyllables) (.table openHangulSyllables))]

/-- The roles in words, each under its names. -/
def wordRoles : List (List String × CharClass) := [
  (["cr"], .char '\r'),
  (["lf"], .char '\n'),
  (["nl", "newline"], .table wordNewlines),
  (["zwj"], .char '\u200D'),
  (["sq", "singlequote"], .range 0x27 0x27),
  (["dq", "doublequote"], .range 0x22 0x22),
  (["extend"], .table (graphemeExtenders ++ spacingMarks ++ emojiModifiers)),
  (["fo", "format"], .diff separateFormats (.char '\u200B')),
  (["ri", "regionalindicator"], .table regionalIndicators),
  (["hl", "hebrewletter"], .table hebrewLetters),
  (["ka", "katakana"], .table katakana),
  (["le", "aletter"],
    .union (.table letterLikeSymbols) <|
      .diff (.diff (.table alphabetic) (.table (ideographs ++ katakana ++ hebrewLetters)))
        (.union (.table (graphemeExtenders ++ spacingMarks ++ unspacedLetters))
          ((script? "hiragana").getD .empty))),
  (["ml", "midletter"], .table midLetters),
  (["mn", "midnum"], .table midNumbers),
  (["mb", "midnumlet"], .table midNumbersOrLetters),
  (["nu", "numeric"], .table (decimalDigits ++ numericSigns)),
  (["ex", "extendnumlet"], .union (.table connectors) (.char '\u202F')),
  (["wsegspace"], .table wordBlanks)]

/-- The small letters of sentences. -/
def sentenceSmall : CharClass :=
  .diff (.table lowercase) (.table (graphemeExtenders ++ georgianLetters))

/-- The capitals of sentences. -/
def sentenceCapitals : CharClass :=
  .diff (.table (uppercase ++ titlecaseLetters)) (.table georgianLetters)

/-- The roles in sentences, each under its names. -/
def sentenceRoles : List (List String × CharClass) := [
  (["cr"], .char '\r'),
  (["lf"], .char '\n'),
  (["se", "sep"], .table sentenceSeparators),
  (["ex", "extend"], .union (.table (graphemeExtenders ++ spacingMarks)) (.char '\u200D')),
  (["fo", "format"], .union separateFormats (.char '\u070F')),
  (["sp"],
    .diff (.table whiteSpace)
      (.union (.table sentenceSeparators) (ofRanges [(10, 10), (13, 13)]))),
  (["lo", "lower"], sentenceSmall),
  (["up", "upper"], sentenceCapitals),
  (["le", "oletter"],
    .union (.char '\u05F3') <|
      .diff (.diff (.table alphabetic) (.table (graphemeExtenders ++ spacingMarks)))
        (.union sentenceSmall sentenceCapitals)),
  (["nu", "numeric"], .union (.table (decimalDigits ++ numericSigns)) (.char '\u066C')),
  (["at", "aterm"], .table fullStops),
  (["st", "sterm"], .diff (.table sentenceTerminals) (.table fullStops)),
  (["sc", "scontinue"], .table sentenceContinuers),
  (["cl", "close"],
    .diff
      (.table (openingPunctuation ++ closingPunctuation ++ initialQuotes ++ finalQuotes
        ++ quotationMarks ++ ornamentalQuotes))
      (ofRanges [(0xFF02, 0xFF02), (0xFF07, 0xFF07)]))]

/-! ### Names -/

/-- A name without the differences that do not count: case, separators, characters beyond ASCII and
a leading `is`. Only the name `isc` keeps it.
-/
def normalizedName (name : List Char) : String :=
  let kept := fun name : List Char =>
    (name.filter fun c => c != ' ' && c != '_' && c != '-' && c.toNat < 0x80).map Char.toLower
  match name with
  | first :: second :: rest =>
    if first.toLower == 'i' && second.toLower == 's' then
      if kept rest = ['c'] then "isc" else String.ofList (kept rest)
    else String.ofList (kept name)
  | _ => String.ofList (kept name)

/-- The class that a name alone stands for: a property, a category or a script. -/
def named? (name : List Char) : Option CharClass :=
  let name := normalizedName name
  (lookup? name properties).or ((category? name).or (script? name))

/-- The class of a value of a property. -/
def valued? (property value : List Char) : Option CharClass :=
  let value := normalizedName value
  match normalizedName property with
  | "gc" | "generalcategory" => category? value
  | "sc" | "script" => script? value
  | "scx" | "scriptextensions" => usedInScript? value
  | "age" => (introducedUpTo? value).map .table
  | "gcb" | "graphemeclusterbreak" => lookup? value graphemeRoles
  | "wb" | "wordbreak" => lookup? value wordRoles
  | "sb" | "sentencebreak" => lookup? value sentenceRoles
  | _ => none

end FormWizard.Regex.CharClass
