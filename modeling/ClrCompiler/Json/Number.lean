import ClrCompiler.Decimal.Shortest
import ClrCompiler.Json.Error

/-!
Numbers inside JSON. No reader expects one, so a number only has to be described, or passed over.
Whole numbers that fit into 64 bits are exact; all others become doubles, built from a 64-bit
significand and a power of ten.
-/

namespace ClrCompiler.Json.Number

def isDigit (c : Char) : Bool := '0' ≤ c && c ≤ '9'

def digitValue (c : Char) : Nat := c.toNat - '0'.toNat

def maxSignificand : Nat := UInt64.size - 1

def maxExponent : Nat := 2147483647

def accumulate (bound : Nat) : Nat → List Char → Nat × List Char
  | n, [] => (n, [])
  | n, c :: rest =>
    let next := n * 10 + digitValue c
    if next ≤ bound then accumulate bound next rest else (n, c :: rest)

def powerOfTen (n : Nat) : Float := Float.ofScientific 1 false n

def maxPower : Nat := 308

def scaleDown (x : Float) (n : Nat) : Float :=
  if n ≤ maxPower then x / powerOfTen n
  else if x == 0 then x
  else scaleDown (x / powerOfTen maxPower) (n - maxPower)
termination_by n
decreasing_by simp only [maxPower] at *; omega

def scale (significand : Nat) (exponent : Int) : Except Error Float :=
  let x := significand.toUInt64.toFloat
  if exponent < 0 then .ok (scaleDown x (-exponent).toNat)
  else if exponent ≤ maxPower then
    let y := x * powerOfTen exponent.toNat
    if y.isInf then .error .numberOutOfRange else .ok y
  else if x == 0 then .ok x
  else .error .numberOutOfRange

def signed (negative : Bool) (x : Float) : Float := if negative then -x else x

def decimal (negative : Bool) (significand : Nat) (exponent : Int) : Except Error Found :=
  (scale significand exponent).map fun x => .decimal (Decimal.text (signed negative x))

def clamp (n : Int) : Int := max (-maxExponent - 1) (min n maxExponent)

def readExponent (negative : Bool) (significand : Nat) (start : Int) (input : List Char) :
    Except Error (Found × List Char) := do
  let (down, input) :=
    match input with
    | '+' :: rest => (false, rest)
    | '-' :: rest => (true, rest)
    | _ => (false, input)
  match input with
  | [] => .error .endInValue
  | c :: _ =>
    if isDigit c then
      let rest := input.dropWhile isDigit
      match accumulate maxExponent 0 (input.takeWhile isDigit) with
      | (n, []) =>
        let found ← decimal negative significand (clamp (if down then start - n else start + n))
        return (found, rest)
      | (_, _ :: _) =>
        if significand ≠ 0 ∧ !down then .error .numberOutOfRange
        else return (.decimal (Decimal.text (signed negative 0)), rest)
    else .error .invalidNumber

def readTail (negative : Bool) (significand : Nat) (exponent : Int) (input : List Char) :
    Except Error (Found × List Char) :=
  match input with
  | 'e' :: rest => readExponent negative significand exponent rest
  | 'E' :: rest => readExponent negative significand exponent rest
  | _ => (decimal negative significand exponent).map (·, input)

def readPlaces (negative : Bool) (significand : Nat) (exponent : Int) (input : List Char) :
    Except Error (Found × List Char) :=
  let places := input.takeWhile isDigit
  let rest := input.dropWhile isDigit
  if places.isEmpty then .error (if rest.isEmpty then .endInValue else .invalidNumber)
  else
    let (n, dropped) := accumulate maxSignificand significand places
    readTail negative n (exponent - (places.length - dropped.length : Nat)) rest

def maxNegative : Nat := 9223372036854775808

def whole (negative : Bool) (n : Nat) : Found :=
  if negative then
    if n = 0 ∨ maxNegative < n then .decimal (Decimal.text (signed true n.toUInt64.toFloat))
    else .integer (-n)
  else .integer n

def read (negative : Bool) (input : List Char) : Except Error (Found × List Char) :=
  match input with
  | [] => .error .endInValue
  | c :: next =>
    if isDigit c then
      if c = '0' ∧ next.head?.any isDigit then .error .invalidNumber
      else
        let rest := input.dropWhile isDigit
        let (n, left) := accumulate maxSignificand 0 (input.takeWhile isDigit)
        match rest with
        | '.' :: places => readPlaces negative n left.length places
        | _ =>
          if left.isEmpty ∧ !(rest.head?.any fun c => c == 'e' || c == 'E') then
            .ok (whole negative n, rest)
          else readTail negative n left.length rest
    else .error .invalidNumber

def skipExponent (input : List Char) : Except Error (List Char) :=
  let input :=
    match input with
    | '+' :: rest => rest
    | '-' :: rest => rest
    | _ => input
  if input.head?.any isDigit then .ok (input.dropWhile isDigit) else .error .invalidNumber

def skipTail (input : List Char) : Except Error (List Char) :=
  match input with
  | 'e' :: rest => skipExponent rest
  | 'E' :: rest => skipExponent rest
  | _ => .ok input

def skip (input : List Char) : Except Error (List Char) :=
  match input with
  | [] => .error .invalidNumber
  | c :: next =>
    if isDigit c then
      if c = '0' ∧ next.head?.any isDigit then .error .invalidNumber
      else
        match input.dropWhile isDigit with
        | '.' :: places =>
          if places.head?.any isDigit then skipTail (places.dropWhile isDigit)
          else .error .invalidNumber
        | rest => skipTail rest
    else .error .invalidNumber

end ClrCompiler.Json.Number
