import ClrCompiler.Text.Quoted

/-!
What can be wrong with a JSON text, seen as the value that a reader expects. A message says what is
wrong and not where: the line and the column that stand behind it when it is printed are left out.
-/

namespace ClrCompiler.Json

inductive Found where
  | null
  | boolean (value : Bool)
  | integer (value : Int)
  | decimal (shown : String)
  | text (value : String)
  | list
  | object
  | unitVariant
  deriving DecidableEq

def Found.message : Found → String
  | .null => "null"
  | .boolean value => "boolean `" ++ (if value then "true" else "false") ++ "`"
  | .integer value => "integer `" ++ toString value ++ "`"
  | .decimal shown => "floating point `" ++ shown ++ "`"
  | .text value => "string " ++ Text.Quoted.quote value
  | .list => "sequence"
  | .object => "map"
  | .unitVariant => "unit variant"

inductive Error where
  | endInValue
  | endInList
  | endInObject
  | endInText
  | expectedValue
  | expectedIdent
  | expectedColon
  | expectedCommaOrBracket
  | expectedCommaOrBrace
  | trailingComma
  | trailingCharacters
  | keyMustBeText
  | controlCharacter
  | invalidEscape
  | unfinishedSurrogate
  | loneSurrogate
  | invalidNumber
  | numberOutOfRange
  | tooDeep
  | wrongType (found : Found) (expected : String)
  | wrongLength (count : Nat) (expected : String)
  | duplicateField (name : String)
  | missingField (name : String)
  | unknownVariant (name : String) (known : List String)
  deriving DecidableEq

def Error.message : Error → String
  | .endInValue => "EOF while parsing a value"
  | .endInList => "EOF while parsing a list"
  | .endInObject => "EOF while parsing an object"
  | .endInText => "EOF while parsing a string"
  | .expectedValue => "expected value"
  | .expectedIdent => "expected ident"
  | .expectedColon => "expected `:`"
  | .expectedCommaOrBracket => "expected `,` or `]`"
  | .expectedCommaOrBrace => "expected `,` or `\x7d`"
  | .trailingComma => "trailing comma"
  | .trailingCharacters => "trailing characters"
  | .keyMustBeText => "key must be a string"
  | .controlCharacter => "control character (\\u0000-\\u001F) found while parsing a string"
  | .invalidEscape => "invalid escape"
  | .unfinishedSurrogate => "unexpected end of hex escape"
  | .loneSurrogate => "lone leading surrogate in hex escape"
  | .invalidNumber => "invalid number"
  | .numberOutOfRange => "number out of range"
  | .tooDeep => "recursion limit exceeded"
  | .wrongType found expected => "invalid type: " ++ found.message ++ ", expected " ++ expected
  | .wrongLength count expected =>
    "invalid length " ++ toString count ++ ", expected " ++ expected
  | .duplicateField name => "duplicate field `" ++ name ++ "`"
  | .missingField name => "missing field `" ++ name ++ "`"
  | .unknownVariant name known =>
    "unknown variant `" ++ name ++ "`, expected one of "
      ++ String.intercalate ", " (known.map fun k => "`" ++ k ++ "`")

end ClrCompiler.Json
