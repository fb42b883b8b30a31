/-!
Why a text is not the JSON that was expected.
-/

namespace VoucherSwap.Json

inductive Error where
  | endInValue
  | endInObject
  | endInList
  | endInString
  | wrongType
  | trailingCharacters
  | trailingComma
  | keyNotString
  | expectedCommaOrBrace
  | expectedCommaOrBracket
  | expectedColon
  | expectedWord
  | expectedValue
  | invalidNumber
  | controlCharacter
  | invalidEscape
  | loneSurrogate
  | expectedLowSurrogate
  | expectedHighSurrogate
  | tooDeep
  | custom (description : String)
  deriving DecidableEq

def Error.message : Error → String
  | .endInValue => "EOF while parsing a JSON value."
  | .endInObject => "EOF while parsing an object."
  | .endInList => "EOF while parsing a list."
  | .endInString => "EOF while parsing a string."
  | .wrongType => "Invalid type"
  | .trailingCharacters => "JSON has non-whitespace trailing characters after the value."
  | .trailingComma => "JSON has a comma after the last value in an array or map."
  | .keyNotString => "Object key is not a string."
  | .expectedCommaOrBrace => "Expected this character to be either a `','` or a `'\x7d'`."
  | .expectedCommaOrBracket => "Expected this character to be either a `','` ora `']'`."
  | .expectedColon => "Expected this character to be a `':'`."
  | .expectedWord => "Expected to parse either a `true`, `false`, or a `null`."
  | .expectedValue => "Expected this character to start a JSON value."
  | .invalidNumber => "Invalid number."
  | .controlCharacter => "Control character found in string."
  | .invalidEscape => "Invalid escape sequence."
  | .loneSurrogate =>
    "Found a lone surrogate, which can exist in JSON but cannot be encoded to UTF-8."
  | .expectedLowSurrogate => "Expected a low surrogate (DC00–DFFF)."
  | .expectedHighSurrogate => "Expected a high surrogate (D800–DBFF)."
  | .tooDeep => "JSON is nested too deeply, exceeded the recursion limit."
  | .custom description => description

end VoucherSwap.Json
