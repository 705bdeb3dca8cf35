import PathWatch.Unicode.Age
import PathWatch.Unicode.Property
import PathWatch.Unicode.Script
/-!
# Properties by name

A property, a category or a script can be asked for by any of its names. Case, blanks, hyphens and
underscores do not matter in a name, and neither does a leading `is`.
-/

namespace PathWatch.Unicode

/-! ## Names -/

/-- A name without its leading `is`. -/
def withoutIs : List Char → Option (List Char)
  | a :: b :: rest =>
    if (a = 'i' || a = 'I') && (b = 's' || b = 'S') then some rest else none
  | _ => none

/-- The letters of a name that matter. -/
def nameLetters (name : List Char) : List Char :=
  (name.filter fun c => c.toNat < 0x80 && c ≠ ' ' && c ≠ '_' && c ≠ '-').map Char.toLower

/-- The form in which names are compared. The name `isc` keeps its `is`, which is no addition to the
name of another property. -/
def normalizedName (name : List Char) : String :=
  match withoutIs name with
  | none => String.ofList (nameLetters name)
  | some rest =>
    let letters := nameLetters rest
    if letters = ['c'] then "isc" else String.ofList letters

/-- The first entry one of whose names is the given one. -/
def entryNamed? {A : Type} (names : A → List String) (entries : List A) (name : String) :
    Option A :=
  entries.find? fun entry => (names entry).contains name

/-! ## Entries -/

open Category Property in
/-- The properties that a character has or does not have. -/
def binaryProperties : List ValueClass :=
  [⟨["ahex", "asciihexdigit"], asciiHexDigit⟩,
    ⟨["alpha", "alphabetic"], alphabetic⟩,
    ⟨["bidic", "bidicontrol"], bidiControl⟩,
    ⟨["bidim", "bidimirrored"], bidiMirrored⟩,
    ⟨["ci", "caseignorable"], caseIgnorable⟩,
    ⟨["cased"], cased⟩,
    ⟨["cwcf", "changeswhencasefolded"], changesWhenCasefolded⟩,
    ⟨["cwcm", "changeswhencasemapped"], changesWhenCasemapped⟩,
    ⟨["cwl", "changeswhenlowercased"], changesWhenLowercased⟩,
    ⟨["cwt", "changeswhentitlecased"], changesWhenTitlecased⟩,
    ⟨["cwu", "changeswhenuppercased"], changesWhenUppercased⟩,
    ⟨["dash"], dash⟩,
    ⟨["di", "defaultignorablecodepoint"], defaultIgnorableCodePoint⟩,
    ⟨["dep", "deprecated"], deprecated⟩,
    ⟨["dia", "diacritic"], diacritic⟩,
    ⟨["emoji"], emoji⟩,
    ⟨["ecomp", "emojicomponent"], emojiComponent⟩,
    ⟨["emod", "emojimodifier"], emojiModifier⟩,
    ⟨["ebase", "emojimodifierbase"], emojiModifierBase⟩,
    ⟨["epres", "emojipresentation"], emojiPresentation⟩,
    ⟨["extpict", "extendedpictographic"], extendedPictographic⟩,
    ⟨["ext", "extender"], extender⟩,
    ⟨["grbase", "graphemebase"], graphemeBase⟩,
    ⟨["grext", "graphemeextend"], graphemeExtend⟩,
    ⟨["grlink", "graphemelink"], graphemeLink⟩,
    ⟨["hex", "hexdigit"], hexDigit⟩,
    ⟨["hyphen"], hyphen⟩,
    ⟨["idsb", "idsbinaryoperator"], idsBinaryOperator⟩,
    ⟨["idst", "idstrinaryoperator"], idsTrinaryOperator⟩,
    ⟨["idsu", "idsunaryoperator"], idsUnaryOperator⟩,
    ⟨["idcompatmathcontinue"], idCompatMathContinue⟩,
    ⟨["idcompatmathstart"], idCompatMathStart⟩,
    ⟨["idc", "idcontinue"], idContinue⟩,
    ⟨["ids", "idstart"], idStart⟩,
    ⟨["ideo", "ideographic"], ideographic⟩,
    ⟨["joinc", "joincontrol"], joinControl⟩,
    ⟨["loe", "logicalorderexception"], logicalOrderException⟩,
    ⟨["lower", "lowercase"], lowercase⟩,
    ⟨["math"], math⟩,
    ⟨["mcm", "modifiercombiningmark"], modifierCombiningMark⟩,
    ⟨["nchar", "noncharactercodepoint"], noncharacterCodePoint⟩,
    ⟨["oalpha", "otheralphabetic"], otherAlphabetic⟩,
    ⟨["odi", "otherdefaultignorablecodepoint"], otherDefaultIgnorableCodePoint⟩,
    ⟨["ogrext", "othergraphemeextend"], otherGraphemeExtend⟩,
    ⟨["oidc", "otheridcontinue"], otherIdContinue⟩,
    ⟨["oids", "otheridstart"], otherIdStart⟩,
    ⟨["olower", "otherlowercase"], otherLowercase⟩,
    ⟨["omath", "othermath"], otherMath⟩,
    ⟨["oupper", "otheruppercase"], otherUppercase⟩,
    ⟨["patsyn", "patternsyntax"], patternSyntax⟩,
    ⟨["patws", "patternwhitespace"], patternWhiteSpace⟩,
    ⟨["pcm", "prependedconcatenationmark"], prependedConcatenationMark⟩,
    ⟨["qmark", "quotationmark"], quotationMark⟩,
    ⟨["radical"], radical⟩,
    ⟨["ri", "regionalindicator"], regionalIndicator⟩,
    ⟨["sterm", "sentenceterminal"], sentenceTerminal⟩,
    ⟨["sd", "softdotted"], softDotted⟩,
    ⟨["term", "terminalpunctuation"], terminalPunctuation⟩,
    ⟨["uideo", "unifiedideograph"], unifiedIdeograph⟩,
    ⟨["upper", "uppercase"], uppercase⟩,
    ⟨["vs", "variationselector"], variationSelector⟩,
    ⟨["wspace", "whitespace", "space"], whiteSpace⟩,
    ⟨["xidc", "xidcontinue"], xidContinue⟩,
    ⟨["xids", "xidstart"], xidStart⟩]

open Category in
/-- The categories and the groups of categories. Surrogates are no characters and have no entry. -/
def categories : List ValueClass :=
  [⟨["any"], .all⟩,
    ⟨["ascii"], .range 0 0x7F⟩,
    ⟨["assigned"], assigned⟩,
    ⟨["c", "other"], other⟩,
    ⟨["cc", "control", "cntrl"], control⟩,
    ⟨["cf", "format"], format⟩,
    ⟨["cn", "unassigned"], unassigned⟩,
    ⟨["co", "privateuse"], privateUse⟩,
    ⟨["l", "letter"], letter⟩,
    ⟨["lc", "casedletter"], casedLetter⟩,
    ⟨["ll", "lowercaseletter"], lowercaseLetter⟩,
    ⟨["lm", "modifierletter"], modifierLetter⟩,
    ⟨["lo", "otherletter"], otherLetter⟩,
    ⟨["lt", "titlecaseletter"], titlecaseLetter⟩,
    ⟨["lu", "uppercaseletter"], uppercaseLetter⟩,
    ⟨["m", "mark", "combiningmark"], mark⟩,
    ⟨["mc", "spacingmark"], spacingMark⟩,
    ⟨["me", "enclosingmark"], enclosingMark⟩,
    ⟨["mn", "nonspacingmark"], nonspacingMark⟩,
    ⟨["n", "number"], number⟩,
    ⟨["nd", "decimalnumber", "digit"], decimalNumber⟩,
    ⟨["nl", "letternumber"], letterNumber⟩,
    ⟨["no", "othernumber"], otherNumber⟩,
    ⟨["p", "punctuation", "punct"], punctuation⟩,
    ⟨["pc", "connectorpunctuation"], connectorPunctuation⟩,
    ⟨["pd", "dashpunctuation"], dashPunctuation⟩,
    ⟨["pe", "closepunctuation"], closePunctuation⟩,
    ⟨["pf", "finalpunctuation"], finalPunctuation⟩,
    ⟨["pi", "initialpunctuation"], initialPunctuation⟩,
    ⟨["po", "otherpunctuation"], otherPunctuation⟩,
    ⟨["ps", "openpunctuation"], openPunctuation⟩,
    ⟨["s", "symbol"], symbol⟩,
    ⟨["sc", "currencysymbol"], currencySymbol⟩,
    ⟨["sk", "modifiersymbol"], modifierSymbol⟩,
    ⟨["sm", "mathsymbol"], mathSymbol⟩,
    ⟨["so", "othersymbol"], otherSymbol⟩,
    ⟨["z", "separator"], separator⟩,
    ⟨["zl", "lineseparator"], lineSeparator⟩,
    ⟨["zp", "paragraphseparator"], paragraphSeparator⟩,
    ⟨["zs", "spaceseparator"], spaceSeparator⟩]

/-- The scripts by name. -/
def scriptClasses : List ValueClass :=
  scripts.map fun s => ⟨s.names, s.own⟩

/-- The extensions of scripts by name. -/
def scriptExtensions : List ValueClass :=
  scripts.map fun s => ⟨s.names, s.extension⟩

/-- The versions, each with all code points that were assigned up to it. -/
def assignedUpTo (earlier : CodeSet) : List ValueClass → List ValueClass
  | [] => []
  | age :: rest =>
    let members := CodeSet.union age.members earlier
    ⟨age.names, members⟩ :: assignedUpTo members rest

/-- A property with several values: its names and its values. -/
structure ValuedProperty where
  names : List String
  values : List ValueClass

/-- The properties whose values can be asked for. -/
def valuedProperties : List ValuedProperty :=
  [⟨["gc", "generalcategory"], categories⟩,
    ⟨["sc", "script"], scriptClasses⟩,
    ⟨["scx", "scriptextensions"], scriptExtensions⟩,
    ⟨["age"], assignedUpTo .empty ages⟩,
    ⟨["gcb", "graphemeclusterbreak"], graphemeBreaks⟩,
    ⟨["wb", "wordbreak"], wordBreaks⟩,
    ⟨["sb", "sentencebreak"], sentenceBreaks⟩]

/-- Names of properties that are known, but whose values cannot be asked for. -/
def otherProperties : List String :=
  ["bc", "bidiclass", "bidimirroringglyph", "bidipairedbracket", "bidipairedbrackettype", "blk",
    "block", "bmg", "bpb", "bpt", "canonicalcombiningclass", "casefolding", "ccc", "ce", "cf",
    "changeswhennfkccasefolded", "cjkaccountingnumeric", "cjkcompatibilityvariant", "cjkiicore",
    "cjkirggsource", "cjkirghsource", "cjkirgjsource", "cjkirgkpsource", "cjkirgksource",
    "cjkirgmsource", "cjkirgssource", "cjkirgtsource", "cjkirguksource", "cjkirgusource",
    "cjkirgvsource", "cjkothernumeric", "cjkprimarynumeric", "cjkrsunicode", "compex",
    "compositionexclusion", "cwkcf", "decompositionmapping", "decompositiontype", "dm", "dt", "ea",
    "eastasianwidth", "equideo", "equivalentunifiedideograph", "expandsonnfc", "expandsonnfd",
    "expandsonnfkc", "expandsonnfkd", "fcnfkc", "fcnfkcclosure", "fullcompositionexclusion",
    "hangulsyllabletype", "hst", "incb", "indicconjunctbreak", "indicpositionalcategory",
    "indicsyllabiccategory", "inpc", "insc", "isc", "jamoshortname", "jg", "joininggroup",
    "joiningtype", "jsn", "jt", "kaccountingnumeric", "kcompatibilityvariant", "kehcat", "kehdesc",
    "kehhg", "kehifao", "kehjsesh", "kehnomirror", "kehnorotate", "kiicore", "kirggsource",
    "kirghsource", "kirgjsource", "kirgkpsource", "kirgksource", "kirgmsource", "kirgssource",
    "kirgtsource", "kirguksource", "kirgusource", "kirgvsource", "kothernumeric", "kprimarynumeric",
    "krsunicode", "lb", "lc", "linebreak", "lowercasemapping", "na", "na1", "name", "namealias",
    "nfcqc", "nfcquickcheck", "nfdqc", "nfdquickcheck", "nfkccasefold", "nfkccf", "nfkcqc",
    "nfkcquickcheck", "nfkcscf", "nfkcsimplecasefold", "nfkdqc", "nfkdquickcheck", "nt",
    "numerictype", "numericvalue", "nv", "ocomment", "scf", "sfc", "simplecasefolding",
    "simplelowercasemapping", "simpletitlecasemapping", "simpleuppercasemapping", "slc", "stc",
    "suc", "tc", "titlecasemapping", "uc", "unicode1name", "unicoderadicalstroke",
    "uppercasemapping", "urs", "verticalorientation", "vo", "xonfc", "xonfd", "xonfkc", "xonfkd"]

/-! ## Asking -/

/-- Why a question about properties has no answer. -/
inductive LookupError where
  | propertyUnknown
  | valueUnknown
  deriving DecidableEq, Repr

/-- The names of surrogates, which form a category without characters. -/
def surrogateNames : List String := ["cs", "surrogate"]

/-- The names of the two scripts without an entry. -/
def entrylessScripts : List String :=
  ["hrkt", "katakanaorhiragana", "zzzz", "unknown"]

/-- The characters of a property, a category or a script, which are tried in this order. -/
def charactersNamed (name : List Char) : Except LookupError CodeSet :=
  let name := normalizedName name
  match entryNamed? ValueClass.names (binaryProperties ++ categories ++ scriptClasses) name with
  | some entry => .ok entry.members
  | none =>
    if (surrogateNames ++ entrylessScripts).contains name then .error .valueUnknown
    else .error .propertyUnknown

/-- The characters with a value of a property. -/
def charactersWithValue (property value : List Char) : Except LookupError CodeSet :=
  let property := normalizedName property
  match entryNamed? ValuedProperty.names valuedProperties property with
  | some entry =>
    match entryNamed? ValueClass.names entry.values (normalizedName value) with
    | some entry => .ok entry.members
    | none => .error .valueUnknown
  | none =>
    if (entryNamed? ValueClass.names binaryProperties property).isSome ||
        otherProperties.contains property then
      .error .valueUnknown
    else .error .propertyUnknown

end PathWatch.Unicode
