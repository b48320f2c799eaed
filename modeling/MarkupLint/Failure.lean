import MarkupLint.Format.JsonReader
import MarkupLint.Markup.State
import MarkupLint.Text.ByteFault
import MarkupLint.Tool.Words

set_option autoImplicit false

namespace MarkupLint

namespace Text

-- The text is shown quoted, but no more than the first two hundred characters of that.
def NumberError.message : NumberError → String
  | .malformed text =>
      "invalid literal for int() with base 10: " ++ String.ofList ((quote text).toList.take 200)
  | .tooLong digits => "Exceeds the limit (" ++ toString maxDigits
      ++ " digits) for integer string conversion: value has " ++ toString digits
      ++ " digits; use sys.set_int_max_str_digits() to increase the limit"

end Text

namespace Markup.Crash

def message : Crash → String
  | .noProjectEnvironment => "'Values' object has no attribute 'env'"
  | .missingSubstitution name => Text.quote name
  | .noValue question => "'NoneType' object has no attribute " ++ Text.quote question
  | .noInclusion => "pop from empty list"
  | .lostLabel => "None"
  | .noCaption => "list index out of range"
  | .cellsOverlap => ""
  | .idsLost ids =>
      "Losing \"ids\" attribute: [" ++ String.intercalate ", " (ids.map Text.quote) ++ "]"
  | .unknownAddress address => "unknown url type: " ++ Text.quote address

-- Whether a check in a project goes on with the messages given so far: something was asked of a value that
-- does not have it.
def isForgiven : Crash → Bool
  | .noProjectEnvironment => true
  | .noValue _ => true
  | _ => false

end Markup.Crash

inductive Failure where
  | number (cause : Text.NumberError)
  | notUtf8 (cause : Text.Utf8Error)
  | words (cause : Tool.WordError)
  | missingPart
  | missingLine
  | noLineAbove
  | noLine (sign : Char)
  | document (cause : Markup.Crash)
  | tooDeep (kind : Json.Nested)
  | noCharacter
  | unknownWord (word : String)
  | notTimestamp
  | value (text : String)
deriving DecidableEq, Repr

namespace Failure

def message : Failure → String
  | .number cause => cause.message
  | .notUtf8 cause => cause.message
  | .words cause => cause.message
  | .missingPart => "list index out of range"
  | .missingLine => "list index out of range"
  | .noLineAbove => "cannot access local variable 'line_no' where it is not associated with a value"
  | .noLine sign => "unsupported operand type(s) for " ++ sign.toString ++ ": 'NoneType' and 'int'"
  | .document cause => cause.message
  | .tooDeep .array => "maximum recursion depth exceeded while decoding a JSON array from a unicode string"
  | .tooDeep .object => "maximum recursion depth exceeded while decoding a JSON object from a unicode string"
  | .noCharacter => "string index out of range"
  | .unknownWord word => Text.quote word
  | .notTimestamp => "'NoneType' object has no attribute 'groupdict'"
  | .value text => text

end Failure

end MarkupLint
