import PathWatch.Text.Quoted
/-!
# Why a JSON text cannot be read

A text fails either because it is not JSON, or because it ends too early, or because it is JSON of
the wrong shape. The three categories are kept apart; the wording of each cause is in one place.
-/

namespace PathWatch.Json

/-! ## What was found -/

/-- A value, as named in a message, that stands where a value of another type is wanted. A number
with a fraction or an exponent is named by its text. -/
inductive Found where
  | null
  | boolean (value : Bool)
  | integer (value : Int)
  | float (text : String)
  | string (value : String)
  | sequence
  | map
  | unitVariant
  deriving DecidableEq, Repr

/-- The words for a value in a message. -/
def Found.describe : Found → String
  | .null => "null"
  | .boolean true => "boolean `true`"
  | .boolean false => "boolean `false`"
  | .integer n => "integer `" ++ toString n ++ "`"
  | .float text => "floating point `" ++ text ++ "`"
  | .string s => "string " ++ Text.quote s
  | .sequence => "sequence"
  | .map => "map"
  | .unitVariant => "unit variant"

/-! ## Causes -/

/-- The cause of a failed reading. -/
inductive Error where
  | eofInList
  | eofInObject
  | eofInString
  | eofInValue
  | expectedColon
  | expectedListCommaOrEnd
  | expectedObjectCommaOrEnd
  | expectedIdent
  | expectedValue
  | invalidEscape
  | invalidNumber
  | numberOutOfRange
  | controlCharacter
  | keyNotString
  | loneSurrogate
  | unfinishedSurrogatePair
  | trailingComma
  | trailingCharacters
  | invalidType (found : Found) (expected : String)
  | invalidValue (found : Found) (expected : String)
  | invalidLength (length : Nat) (expected : String)
  | unknownVariant (name : String) (choices : List String)
  | missingField (name : String)
  | duplicateField (name : String)
  /-- The text is fine, but a rule of the value's own type refuses it with these words. -/
  | refused (message : String)
  deriving DecidableEq, Repr

/-- The three ways in which a text can fail. -/
inductive Category where
  /-- The text is not JSON. -/
  | malformed
  /-- The text is JSON of the wrong shape. -/
  | wrongData
  /-- The text ends too early. -/
  | unfinished
  deriving DecidableEq, Repr

/-- The category of a cause. -/
def Error.category : Error → Category
  | .eofInList | .eofInObject | .eofInString | .eofInValue => .unfinished
  | .invalidType .. | .invalidValue .. | .invalidLength .. | .unknownVariant ..
  | .missingField .. | .duplicateField .. | .refused .. => .wrongData
  | _ => .malformed

/-! ## Wording -/

/-- Names in backquotes, separated by commas. -/
def quotedChoices (choices : List String) : String :=
  String.intercalate ", " (choices.map fun c => "`" ++ c ++ "`")

/-- The message for a cause. -/
def Error.message : Error → String
  | .eofInList => "EOF while parsing a list"
  | .eofInObject => "EOF while parsing an object"
  | .eofInString => "EOF while parsing a string"
  | .eofInValue => "EOF while parsing a value"
  | .expectedColon => "expected `:`"
  | .expectedListCommaOrEnd => "expected `,` or `]`"
  | .expectedObjectCommaOrEnd => "expected `,` or `\x7d`"
  | .expectedIdent => "expected ident"
  | .expectedValue => "expected value"
  | .invalidEscape => "invalid escape"
  | .invalidNumber => "invalid number"
  | .numberOutOfRange => "number out of range"
  | .controlCharacter => "control character (\\u0000-\\u001F) found while parsing a string"
  | .keyNotString => "key must be a string"
  | .loneSurrogate => "lone leading surrogate in hex escape"
  | .unfinishedSurrogatePair => "unexpected end of hex escape"
  | .trailingComma => "trailing comma"
  | .trailingCharacters => "trailing characters"
  | .invalidType found expected => "invalid type: " ++ found.describe ++ ", expected " ++ expected
  | .invalidValue found expected => "invalid value: " ++ found.describe ++ ", expected " ++ expected
  | .invalidLength n expected => "invalid length " ++ toString n ++ ", expected " ++ expected
  | .unknownVariant name [] => "unknown variant `" ++ name ++ "`, there are no variants"
  | .unknownVariant name [c] => "unknown variant `" ++ name ++ "`, expected `" ++ c ++ "`"
  | .unknownVariant name [c, d] =>
    "unknown variant `" ++ name ++ "`, expected `" ++ c ++ "` or `" ++ d ++ "`"
  | .unknownVariant name choices =>
    "unknown variant `" ++ name ++ "`, expected one of " ++ quotedChoices choices
  | .missingField name => "missing field `" ++ name ++ "`"
  | .duplicateField name => "duplicate field `" ++ name ++ "`"
  | .refused message => message

end PathWatch.Json
