import ClrCompiler.CodeTree.Basic
import ClrCompiler.Output

/-!
Rendering of code trees as indented tags: a leaf takes one line, a group has a line for each of its
two tags, and a conditional has labelled sections. There is no line break after the last line.
-/

namespace ClrCompiler.CodeTree

open Output

structure Line where
  depth : Nat
  parts : List String
  deriving DecidableEq

namespace Line

def opening (depth : Nat) (label : String) : Line := ⟨depth, ["<", label, ">"]⟩

def closing (depth : Nat) (label : String) : Line := ⟨depth, ["</", label, ">"]⟩

def pieces (l : Line) : List Piece := .indent l.depth :: l.parts.map .text

end Line

def escapeChar (c : Char) : List Char :=
  if c = '<' then "&lt;".toList else if c = '>' then "&gt;".toList else [c]

def escape (text : String) : String := String.ofList (text.toList.flatMap escapeChar)

namespace Plain

mutual

def linesOnto (depth : Nat) : Plain → List Line → List Line
  | .text content, rest =>
    ⟨depth, ["<" ++ textTag ++ ">", escape content, "</" ++ textTag ++ ">"]⟩ :: rest
  | .group layout children, rest =>
    .opening depth (groupTag layout) ::
      linesOntoAll (depth + 1) children (.closing depth (groupTag layout) :: rest)

def linesOntoAll (depth : Nat) : List Plain → List Line → List Line
  | [], rest => rest
  | p :: ps, rest => linesOnto depth p (linesOntoAll depth ps rest)

end

end Plain

namespace Node

def branchLabel (label : String) : Option String → String
  | some resultType => label ++ " type=\"" ++ escape resultType ++ "\""
  | Option.none => label

mutual

def linesOnto (depth : Nat) : Node → List Line → List Line
  | .none, rest => ⟨depth, ["<" ++ noneTag ++ " />"]⟩ :: rest
  | .group layout children, rest =>
    .opening depth (groupTag layout) ::
      linesOntoAll (depth + 1) children (.closing depth (groupTag layout) :: rest)
  | .plain p, rest => p.linesOnto depth rest
  | .conditional condition content otherwise resultType, rest =>
    .opening depth (conditionalTag resultType) ::
      .opening (depth + 1) "condition" ::
      linesOnto (depth + 2) condition
        (.closing (depth + 1) "condition" ::
        .opening (depth + 1) (branchLabel "content" resultType) ::
        linesOnto (depth + 2) content
          (.closing (depth + 1) "content" ::
          .opening (depth + 1) (branchLabel "else" resultType) ::
          linesOnto (depth + 2) otherwise
            (.closing (depth + 1) "else" :: .closing depth (conditionalTag resultType) :: rest)))

def linesOntoAll (depth : Nat) : List Node → List Line → List Line
  | [], rest => rest
  | n :: ns, rest => linesOnto depth n (linesOntoAll depth ns rest)

end

def lines (n : Node) : List Line := n.linesOnto 0 []

def join : List Line → List Piece
  | [] => []
  | l :: ls => l.pieces ++ ls.flatMap fun l => .newline :: l.pieces

def pieces (n : Node) : List Piece := join n.lines

def render (n : Node) : String := text n.pieces

end Node

end ClrCompiler.CodeTree
