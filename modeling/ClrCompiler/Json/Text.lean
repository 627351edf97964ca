import ClrCompiler.Json.Error

/-!
Quoted texts inside JSON, read character by character and written back.
-/

namespace ClrCompiler.Json.Text

/-- Where a reader stands inside a quoted text. `lead` is the first half of a pair of surrogates
whose second half must follow; `hex` has read `count` digits of a number so far. -/
inductive Mode where
  | plain
  | escape
  | hex (lead : Option Nat) (count value : Nat)
  | backslash (lead : Nat)
  | letterU (lead : Nat)

def hexValue? (c : Char) : Option Nat :=
  if '0' ≤ c ∧ c ≤ '9' then some (c.toNat - '0'.toNat)
  else if 'a' ≤ c ∧ c ≤ 'f' then some (c.toNat - 'a'.toNat + 10)
  else if 'A' ≤ c ∧ c ≤ 'F' then some (c.toNat - 'A'.toNat + 10)
  else none

def simpleEscape? : Char → Option Char
  | '"' => some '"'
  | '\\' => some '\\'
  | '/' => some '/'
  | 'b' => some '\x08'
  | 'f' => some '\x0c'
  | 'n' => some '\n'
  | 'r' => some '\r'
  | 't' => some '\t'
  | _ => none

def hasBytes : Nat → List Char → Bool
  | 0, _ => true
  | _ + 1, [] => false
  | n + 1, c :: rest => hasBytes (n + 1 - c.utf8Size) rest

def isLead (n : Nat) : Bool := 0xD800 ≤ n && n ≤ 0xDBFF

def isTrail (n : Nat) : Bool := 0xDC00 ≤ n && n ≤ 0xDFFF

def unit (lead : Option Nat) (value : Nat) : Except Error (Char ⊕ Nat) :=
  match lead with
  | none =>
    if isTrail value then .error .loneSurrogate
    else if isLead value then .ok (.inr value)
    else .ok (.inl (Char.ofNat value))
  | some first =>
    if isTrail value then
      .ok (.inl (Char.ofNat ((first - 0xD800) * 0x400 + (value - 0xDC00) + 0x10000)))
    else .error .loneSurrogate

def scan : Mode → List Char → List Char → Except Error (String × List Char)
  | .plain, seen, c :: rest =>
    if c = '"' then .ok (String.ofList seen.reverse, rest)
    else if c = '\\' then scan .escape seen rest
    else if c.toNat < 0x20 then .error .controlCharacter
    else scan .plain (c :: seen) rest
  | .escape, seen, c :: rest =>
    if c = 'u' then scan (.hex none 0 0) seen rest
    else
      match simpleEscape? c with
      | some meant => scan .plain (meant :: seen) rest
      | none => .error .invalidEscape
  | .hex lead count value, seen, c :: rest =>
    match hexValue? c with
    | none => .error (if hasBytes (4 - count) (c :: rest) then .invalidEscape else .endInText)
    | some digit =>
      if count < 3 then scan (.hex lead (count + 1) (value * 16 + digit)) seen rest
      else
        match unit lead (value * 16 + digit) with
        | .error e => .error e
        | .ok (.inl meant) => scan .plain (meant :: seen) rest
        | .ok (.inr first) => scan (.backslash first) seen rest
  | .backslash lead, seen, c :: rest =>
    if c = '\\' then scan (.letterU lead) seen rest else .error .unfinishedSurrogate
  | .letterU lead, seen, c :: rest =>
    if c = 'u' then scan (.hex (some lead) 0 0) seen rest else .error .unfinishedSurrogate
  | _, _, [] => .error .endInText

def read (input : List Char) : Except Error (String × List Char) := scan .plain [] input

/-- Like `scan` for a text that nobody looks at: surrogates need no partner. -/
def pass : Mode → List Char → Except Error (List Char)
  | .escape, c :: rest =>
    if c = 'u' then pass (.hex none 0 0) rest
    else if (simpleEscape? c).isSome then pass .plain rest
    else .error .invalidEscape
  | .hex lead count value, c :: rest =>
    match hexValue? c with
    | none => .error (if hasBytes (4 - count) (c :: rest) then .invalidEscape else .endInText)
    | some _ => pass (if count < 3 then .hex lead (count + 1) value else .plain) rest
  | _, c :: rest =>
    if c = '"' then .ok rest
    else if c = '\\' then pass .escape rest
    else if c.toNat < 0x20 then .error .controlCharacter
    else pass .plain rest
  | _, [] => .error .endInText

def skip (input : List Char) : Except Error (List Char) := pass .plain input

def hexDigit (n : Nat) : Char := ("0123456789abcdef".toList)[n]?.getD '0'

def escaped (c : Char) : List Char :=
  match c with
  | '"' => ['\\', '"']
  | '\\' => ['\\', '\\']
  | '\x08' => ['\\', 'b']
  | '\x0c' => ['\\', 'f']
  | '\n' => ['\\', 'n']
  | '\r' => ['\\', 'r']
  | '\t' => ['\\', 't']
  | c =>
    if c.toNat < 0x20 then ['\\', 'u', '0', '0', hexDigit (c.toNat / 16), hexDigit (c.toNat % 16)]
    else [c]

def write (text : String) : List Char := '"' :: (text.toList.flatMap escaped ++ ['"'])

end ClrCompiler.Json.Text
