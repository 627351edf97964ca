import ClrCompiler.Json.Text

/-!
JSON values without numbers, and their text.
-/

namespace ClrCompiler.Json

inductive Value where
  | null
  | boolean (value : Bool)
  | text (value : String)
  | list (items : List Value)
  | object (members : List (String × Value))

namespace Value

def optional : Option String → Value
  | some s => .text s
  | none => .null

mutual

def write : Value → List Char
  | .null => "null".toList
  | .boolean true => "true".toList
  | .boolean false => "false".toList
  | .text s => Text.write s
  | .list [] => ['[', ']']
  | .list (v :: vs) => '[' :: (write v ++ writeItems vs)
  | .object [] => ['\x7b', '\x7d']
  | .object ((k, v) :: ms) => '\x7b' :: (Text.write k ++ ':' :: (write v ++ writeMembers ms))

def writeItems : List Value → List Char
  | [] => [']']
  | v :: vs => ',' :: (write v ++ writeItems vs)

def writeMembers : List (String × Value) → List Char
  | [] => ['\x7d']
  | (k, v) :: ms => ',' :: (Text.write k ++ ':' :: (write v ++ writeMembers ms))

end

mutual

def depth : Value → Nat
  | .null => 0
  | .boolean _ => 0
  | .text _ => 0
  | .list vs => depthItems vs + 1
  | .object ms => depthMembers ms + 1

def depthItems : List Value → Nat
  | [] => 0
  | v :: vs => max (depth v) (depthItems vs)

def depthMembers : List (String × Value) → Nat
  | [] => 0
  | (_, v) :: ms => max (depth v) (depthMembers ms)

end

end Value

end ClrCompiler.Json
