/-!
# Why a text is not a regular expression

A text can fail to be one in its form, and so can what it asks for: an unknown property, a match
of half a character, or more steps than an expression may have.
-/

namespace PathWatch.Regex

/-- What is wrong with the text of a regular expression. -/
inductive Cause where
  | classEscapeInvalid
  | classRangeReversed
  | classRangeNotLiteral
  | classUnclosed
  | decimalEmpty
  | decimalTooLarge
  | hexEmpty
  | hexNoCharacter
  | hexInvalidDigit
  | escapeUnfinished
  | escapeUnknown
  | flagNegationDangling
  | flagRepeated
  | flagNegationRepeated
  | flagsUnfinished
  | flagUnknown
  | nameRepeated
  | nameEmpty
  | nameInvalid
  | nameUnclosed
  | groupUnclosed
  | groupUnopened
  /-- Something is nested deeper than allowed. -/
  | nestedTooDeep (limit : Nat)
  | boundsReversed
  | boundsUnclosed
  | nothingToRepeat
  | wordSideUnclosed
  | wordSideUnknown
  | wordSideOrBoundsUnfinished
  | propertyEscapeInvalid
  | backreference
  | lookAround
  /-- A property of characters is asked for where characters are bytes. -/
  | unicodeNotAllowed
  | partOfCharacter
  | propertyUnknown
  | propertyValueUnknown
  deriving DecidableEq, Repr

/-- The words for a cause. -/
def Cause.describe : Cause → String
  | .classEscapeInvalid => "invalid escape sequence found in character class"
  | .classRangeReversed => "invalid character class range, the start must be <= the end"
  | .classRangeNotLiteral => "invalid range boundary, must be a literal"
  | .classUnclosed => "unclosed character class"
  | .decimalEmpty => "repetition quantifier expects a valid decimal"
  | .decimalTooLarge => "decimal literal invalid"
  | .hexEmpty => "hexadecimal literal empty"
  | .hexNoCharacter => "hexadecimal literal is not a Unicode scalar value"
  | .hexInvalidDigit => "invalid hexadecimal digit"
  | .escapeUnfinished => "incomplete escape sequence, reached end of pattern prematurely"
  | .escapeUnknown => "unrecognized escape sequence"
  | .flagNegationDangling => "dangling flag negation operator"
  | .flagRepeated => "duplicate flag"
  | .flagNegationRepeated => "flag negation operator repeated"
  | .flagsUnfinished => "expected flag but got end of regex"
  | .flagUnknown => "unrecognized flag"
  | .nameRepeated => "duplicate capture group name"
  | .nameEmpty => "empty capture group name"
  | .nameInvalid => "invalid capture group character"
  | .nameUnclosed => "unclosed capture group name"
  | .groupUnclosed => "unclosed group"
  | .groupUnopened => "unopened group"
  | .nestedTooDeep limit =>
    "exceed the maximum number of nested parentheses/brackets (" ++ toString limit ++ ")"
  | .boundsReversed => "invalid repetition count range, the start must be <= the end"
  | .boundsUnclosed => "unclosed counted repetition"
  | .nothingToRepeat => "repetition operator missing expression"
  | .wordSideUnclosed =>
    "special word boundary assertion is either unclosed or contains an invalid character"
  | .wordSideUnknown =>
    "unrecognized special word boundary assertion, valid choices are: start, end, start-half " ++
      "or end-half"
  | .wordSideOrBoundsUnfinished =>
    "found either the beginning of a special word boundary or a bounded repetition on a \\b " ++
      "with an opening brace, but no closing brace"
  | .propertyEscapeInvalid => "invalid Unicode character class"
  | .backreference => "backreferences are not supported"
  | .lookAround => "look-around, including look-ahead and look-behind, is not supported"
  | .unicodeNotAllowed => "Unicode not allowed here"
  | .partOfCharacter => "pattern can match invalid UTF-8"
  | .propertyUnknown => "Unicode property not found"
  | .propertyValueUnknown => "Unicode property value not found"

/-- The failure of compiling a regular expression. -/
inductive Error where
  | invalid (cause : Cause)
  /-- The compiled expression takes more than the given number of bytes. -/
  | tooLarge (limit : Nat)
  deriving DecidableEq, Repr

/-- The line of a message that says what is wrong. -/
def Error.summary : Error → String
  | .invalid cause => "error: " ++ cause.describe
  | .tooLarge limit => "Compiled regex exceeds size limit of " ++ toString limit ++ " bytes."

/-- The message for a failure. -/
def Error.message (e : Error) : String :=
  match e with
  | .invalid _ => "regex parse error:\n" ++ e.summary
  | .tooLarge _ => e.summary

end PathWatch.Regex
