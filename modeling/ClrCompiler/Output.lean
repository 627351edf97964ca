/-!
Output as a sequence of pieces: texts, line breaks and indentation.
-/

namespace ClrCompiler.Output

inductive Piece where
  | text (content : String)
  | newline
  | indent (level : Nat)
  deriving DecidableEq

def indentUnit : String := "    "

def Piece.chunks : Piece → List String
  | .text content => [content]
  | .newline => ["\n"]
  | .indent level => List.replicate level indentUnit

def chunks (pieces : List Piece) : List String := pieces.flatMap Piece.chunks

def text (pieces : List Piece) : String := String.join (chunks pieces)

structure Tally where
  newlines : Nat
  bytes : Nat
  maxIndent : Nat
  indentSum : Nat
  deriving DecidableEq

namespace Tally

def zero : Tally := ⟨0, 0, 0, 0⟩

def add (t : Tally) : Piece → Tally
  | .text content => { t with bytes := t.bytes + content.utf8ByteSize }
  | .newline => { t with newlines := t.newlines + 1 }
  | .indent level =>
    { t with maxIndent := max t.maxIndent level, indentSum := t.indentSum + level }

def lines (t : Tally) : Nat := t.newlines + 1

end Tally

def tally (pieces : List Piece) : Tally := pieces.foldl Tally.add .zero

end ClrCompiler.Output
