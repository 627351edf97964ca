import ClrCompiler.Json.Skip

/-!
Readers for typed values. A reader works from left to right and reports the first thing that is
wrong, be it with the text or with the type of the value. Records are read from objects, in which
unknown keys are skipped, or from lists of their fields in order.
-/

namespace ClrCompiler.Json

/-- How many more lists and objects may be opened, and a bound on the length of the input. -/
structure Limits where
  depth : Nat
  size : Nat

def Reader (α : Type) := Limits → List Char → Except Error (α × List Char)

namespace Reader

variable {α β σ : Type}

def map (f : α → β) (reader : Reader α) : Reader β := fun limits input =>
  (reader limits input).map fun (a, rest) => (f a, rest)

def enter (limits : Limits) : Except Error Limits :=
  match limits.depth with
  | 0 => .error .tooDeep
  | depth + 1 => .ok { limits with depth := depth }

/-- The error for a value of another type: it is described by its beginning, and numbers and texts
are read whole for that. -/
def mismatch (expected : String) (c : Char) (rest : List Char) : Error :=
  let report (found : Found) : Error := .wrongType found expected
  let wordThen (letters : List Char) (found : Found) : Error :=
    match word letters rest with
    | .error e => e
    | .ok _ => report found
  let numberThen (negative : Bool) (input : List Char) : Error :=
    match Number.read negative input with
    | .error e => e
    | .ok (found, _) => report found
  if c = 'n' then wordThen "ull".toList .null
  else if c = 't' then wordThen "rue".toList (.boolean true)
  else if c = 'f' then wordThen "alse".toList (.boolean false)
  else if c = '-' then numberThen true rest
  else if Number.isDigit c then numberThen false (c :: rest)
  else if c = '"' then
    match Text.read rest with
    | .error e => e
    | .ok (s, _) => report (.text s)
  else if c = '[' then report .list
  else if c = '\x7b' then report .object
  else .expectedValue

def peek (input : List Char) : Except Error (Char × List Char) :=
  match skipBlank input with
  | [] => .error .endInValue
  | c :: rest => .ok (c, rest)

def text : Reader String := fun _ input => do
  let (c, rest) ← peek input
  if c = '"' then Text.read rest else .error (mismatch "a string" c rest)

def boolean : Reader Bool := fun _ input => do
  let (c, rest) ← peek input
  if c = 't' then return (true, ← word "rue".toList rest)
  else if c = 'f' then return (false, ← word "alse".toList rest)
  else .error (mismatch "a boolean" c rest)

def null : Reader Unit := fun _ input => do
  let (c, rest) ← peek input
  if c = 'n' then return ((), ← word "ull".toList rest)
  else .error (mismatch "unit" c rest)

def optional (reader : Reader α) : Reader (Option α) := fun limits input => do
  match skipBlank input with
  | 'n' :: rest => return (none, ← word "ull".toList rest)
  | input =>
    let (a, rest) ← reader limits input
    return (some a, rest)

def nextItem (isFirst : Bool) (input : List Char) : Except Error (Option (List Char)) :=
  match skipBlank input with
  | [] => .error .endInList
  | c :: rest =>
    if c = ']' then .ok none
    else if isFirst then .ok (some (c :: rest))
    else if c = ',' then
      match skipBlank rest with
      | [] => .error .endInValue
      | d :: rest => if d = ']' then .error .trailingComma else .ok (some (d :: rest))
    else .error .expectedCommaOrBracket

def closeList (input : List Char) : Except Error (List Char) :=
  match skipBlank input with
  | [] => .error .endInList
  | c :: rest =>
    if c = ']' then .ok rest
    else if c = ',' && (skipBlank rest).head? == some ']' then .error .trailingComma
    else .error .trailingCharacters

/-- All items up to the closing bracket; each consumes a character, so the length of the input is
enough fuel. -/
def items (reader : Reader α) (limits : Limits) : Nat → Bool → List Char →
    Except Error (List α × List Char)
  | 0, _, _ => .error .endInList
  | fuel + 1, isFirst, input => do
    match ← nextItem isFirst input with
    | none => return ([], input)
    | some input =>
      let (a, rest) ← reader limits input
      let (as, rest) ← items reader limits fuel false rest
      return (a :: as, rest)

def list (reader : Reader α) : Reader (List α) := fun limits input => do
  let (c, rest) ← peek input
  if c = '[' then
    let inner ← enter limits
    let (as, rest) ← items reader inner (inner.size + 1) true rest
    return (as, ← closeList rest)
  else .error (mismatch "a sequence" c rest)

def nextKey (isFirst : Bool) (input : List Char) : Except Error (Option (List Char)) :=
  match skipBlank input with
  | [] => .error .endInObject
  | c :: rest =>
    if c = '\x7d' then .ok none
    else if isFirst then
      if c = '"' then .ok (some rest) else .error .keyMustBeText
    else if c = ',' then
      match skipBlank rest with
      | [] => .error .endInValue
      | d :: rest =>
        if d = '"' then .ok (some rest)
        else if d = '\x7d' then .error .trailingComma
        else .error .keyMustBeText
    else .error .expectedCommaOrBrace

def closeObject (input : List Char) : Except Error (List Char) :=
  match skipBlank input with
  | [] => .error .endInObject
  | c :: rest =>
    if c = '\x7d' then .ok rest
    else if c = ',' then .error .trailingComma
    else .error .trailingCharacters

end Reader

structure Field (σ : Type) where
  name : String
  isRead : σ → Bool
  read : σ → Reader σ

namespace Field

def slot {σ α : Type} (name : String) (get : σ → Option α) (set : σ → α → σ) (reader : Reader α) :
    Field σ where
  name := name
  isRead s := (get s).isSome
  read s := reader.map (set s)

end Field

/-- How a record is read: into `σ`, field by field, and from there into the record; `finish` is told
which error to report when a required field is missing. -/
structure Record (σ α : Type) where
  title : String
  start : σ
  fields : List (Field σ)
  finish : σ → (String → Error) → Except Error α

namespace Record

variable {σ α : Type}

open Reader

def members (fields : List (Field σ)) (limits : Limits) : Nat → Bool → σ → List Char →
    Except Error (σ × List Char)
  | 0, _, _, _ => .error .endInObject
  | fuel + 1, isFirst, s, input => do
    match ← nextKey isFirst input with
    | none => return (s, input)
    | some input =>
      let (key, rest) ← Text.read input
      match fields.find? (·.name == key) with
      | none =>
        let rest ← Skip.value limits.size (← colon rest)
        members fields limits fuel false s rest
      | some field =>
        if field.isRead s then .error (.duplicateField key)
        else
          let (s, rest) ← field.read s limits (← colon rest)
          members fields limits fuel false s rest

def positions (limits : Limits) : List (Field σ) → Bool → σ → List Char →
    Except Error (σ × List Char)
  | [], _, s, input => .ok (s, input)
  | field :: fields, isFirst, s, input => do
    match ← nextItem isFirst input with
    | none => return (s, input)
    | some input =>
      let (s, rest) ← field.read s limits input
      positions limits fields false s rest

def lengthError (record : Record σ α) (name : String) : Error :=
  .wrongLength (record.fields.findIdx (·.name == name))
    (record.title ++ " with " ++ toString record.fields.length ++ " elements")

def reader (record : Record σ α) : Reader α := fun limits input => do
  let (c, rest) ← peek input
  if c = '[' then
    let inner ← enter limits
    let (s, rest) ← positions inner record.fields true record.start rest
    let a ← record.finish s record.lengthError
    return (a, ← closeList rest)
  else if c = '\x7b' then
    let inner ← enter limits
    let (s, rest) ← members record.fields inner (inner.size + 1) true record.start rest
    let a ← record.finish s .missingField
    return (a, ← closeObject rest)
  else .error (mismatch record.title c rest)

def require {β : Type} (name : String) (missing : String → Error) : Option β → Except Error β
  | some b => .ok b
  | none => .error (missing name)

end Record

inductive Content (α : Type) where
  | unit (value : α)
  | value (reader : Reader α)
  | record (reader : Reader α)

/-- A choice between named variants. A text names a variant without content; an object with one key
names a variant and holds its content. -/
def Choice (α : Type) := List (String × Content α)

namespace Choice

variable {α : Type}

open Reader

def content (choice : Choice α) (name : String) : Except Error (Content α) :=
  match choice.lookup name with
  | some c => .ok c
  | none => .error (.unknownVariant name (choice.map (·.1)))

def bare : Content α → Except Error α
  | .unit a => .ok a
  | .value _ => .error (.wrongType .unitVariant "newtype variant")
  | .record _ => .error (.wrongType .unitVariant "struct variant")

def readContent : Content α → Reader α
  | .unit a => Reader.null.map fun _ => a
  | .value reader => reader
  | .record reader => reader

def variantKey (input : List Char) : Except Error (List Char) :=
  match skipBlank input with
  | [] => .error .endInObject
  | c :: rest =>
    if c = '"' then .ok rest
    else if c = '\x7d' then .error .expectedValue
    else .error .keyMustBeText

def closeVariant (input : List Char) : Except Error (List Char) :=
  match skipBlank input with
  | [] => .error .endInObject
  | c :: rest => if c = '\x7d' then .ok rest else .error .expectedValue

def reader (choice : Choice α) : Reader α := fun limits input => do
  let (c, rest) ← peek input
  if c = '"' then
    let (name, rest) ← Text.read rest
    return (← bare (← choice.content name), rest)
  else if c = '\x7b' then
    let inner ← enter limits
    let (name, rest) ← Text.read (← variantKey rest)
    let content ← choice.content name
    let (a, rest) ← readContent content inner (← colon rest)
    return (a, ← closeVariant rest)
  else .error .expectedValue

end Choice

def maxDepth : Nat := 127

def Reader.parse {α : Type} (reader : Reader α) (text : String) : Except Error α := do
  let input := text.toList
  let (a, rest) ← reader ⟨maxDepth, input.length⟩ input
  if (skipBlank rest).isEmpty then return a else .error .trailingCharacters

end ClrCompiler.Json
