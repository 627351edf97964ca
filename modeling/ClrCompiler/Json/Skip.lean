import ClrCompiler.Json.Blank
import ClrCompiler.Json.Number
import ClrCompiler.Json.Text

/-!
Values that nobody looks at: they only have to be well formed, at any depth.
-/

namespace ClrCompiler.Json.Skip

inductive Bracket where
  | list
  | object

namespace Bracket

def closing : Bracket → Char
  | .list => ']'
  | .object => '\x7d'

def endError : Bracket → Error
  | .list => .endInList
  | .object => .endInObject

def separatorError : Bracket → Error
  | .list => .expectedCommaOrBracket
  | .object => .expectedCommaOrBrace

end Bracket

/-- What comes next: a value, a member of a bracket, or, inside an open bracket, its end or a
further member; only after a value may a comma come first. -/
inductive Step where
  | value
  | member (bracket : Bracket)
  | inside (afterValue : Bool)

def scalar (c : Char) (rest : List Char) : Except Error (List Char) :=
  if c = 'n' then word "ull".toList rest
  else if c = 't' then word "rue".toList rest
  else if c = 'f' then word "alse".toList rest
  else if c = '-' then Number.skip rest
  else if Number.isDigit c then Number.skip (c :: rest)
  else if c = '"' then Text.skip rest
  else .error .expectedValue

def key (b : Bracket) (input : List Char) : Except Error (List Char) :=
  match b with
  | .list => .ok input
  | .object =>
    match skipBlank input with
    | [] => .error .endInObject
    | c :: rest =>
      if c = '"' then (Text.skip rest).bind colon else .error .keyMustBeText

/-- Goes on until all brackets of the stack are closed. Of three steps in a row at least one
consumes a character, so three times the length of the input is enough fuel. -/
def run : Nat → Step → List Bracket → List Char → Except Error (List Char)
  | 0, _, _, _ => .error .endInValue
  | fuel + 1, .value, stack, input =>
    match skipBlank input with
    | [] => .error .endInValue
    | c :: rest =>
      if c = '[' then run fuel (.inside false) (.list :: stack) rest
      else if c = '\x7b' then run fuel (.inside false) (.object :: stack) rest
      else
        match scalar c rest with
        | .error e => .error e
        | .ok rest => run fuel (.inside true) stack rest
  | fuel + 1, .member b, stack, input =>
    match key b input with
    | .error e => .error e
    | .ok rest => run fuel .value stack rest
  | _ + 1, .inside _, [], input => .ok input
  | fuel + 1, .inside afterValue, b :: stack, input =>
    match skipBlank input with
    | [] => .error b.endError
    | c :: rest =>
      if afterValue && c == ',' then run fuel (.member b) (b :: stack) rest
      else if c = b.closing then run fuel (.inside true) stack rest
      else if afterValue then .error b.separatorError
      else run fuel (.member b) (b :: stack) (c :: rest)

def value (size : Nat) (input : List Char) : Except Error (List Char) :=
  run (3 * size + 3) .value [] input

end ClrCompiler.Json.Skip
