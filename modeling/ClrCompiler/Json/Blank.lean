import ClrCompiler.Json.Error

/-!
Blanks and fixed words between JSON values.
-/

namespace ClrCompiler.Json

def isBlank (c : Char) : Bool := c == ' ' || c == '\t' || c == '\r' || c == '\n'

def skipBlank (input : List Char) : List Char := input.dropWhile isBlank

def word : List Char → List Char → Except Error (List Char)
  | [], input => .ok input
  | _ :: _, [] => .error .endInValue
  | c :: rest, d :: input => if c = d then word rest input else .error .expectedIdent

def colon (input : List Char) : Except Error (List Char) :=
  match skipBlank input with
  | [] => .error .endInObject
  | c :: rest => if c = ':' then .ok rest else .error .expectedColon

end ClrCompiler.Json
