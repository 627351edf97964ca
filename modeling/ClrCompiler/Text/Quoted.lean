import ClrCompiler.Text.Printable

/-!
Quoted texts for messages: quotes, backslashes and characters that cannot be shown are escaped.
-/

namespace ClrCompiler.Text.Quoted

def hexDigits (n : Nat) : List Char := Nat.toDigits 16 n

def escaped (c : Char) : List Char :=
  match c with
  | '\x00' => ['\\', '0']
  | '\t' => ['\\', 't']
  | '\r' => ['\\', 'r']
  | '\n' => ['\\', 'n']
  | '"' => ['\\', '"']
  | '\\' => ['\\', '\\']
  | c =>
    if Printable.isPrintable c then [c]
    else ['\\', 'u', '\x7b'] ++ hexDigits c.toNat ++ ['\x7d']

def quote (text : String) : String :=
  "\"" ++ String.ofList (text.toList.flatMap escaped) ++ "\""

end ClrCompiler.Text.Quoted
