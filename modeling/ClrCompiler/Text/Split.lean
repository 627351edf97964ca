/-!
Cutting texts at separators.
-/

namespace ClrCompiler.Text

def splitBy (isSeparator : Char → Bool) : List Char → List (List Char)
  | [] => [[]]
  | c :: rest =>
    match splitBy isSeparator rest with
    | [] => [[c]]
    | part :: parts => if isSeparator c then [] :: part :: parts else (c :: part) :: parts

def cutLast (separator : Char) : List Char → Option (List Char × List Char)
  | [] => none
  | c :: rest =>
    match cutLast separator rest with
    | some (before, after) => some (c :: before, after)
    | none => if c = separator then some ([], rest) else none

def beforeLastDot? (text : String) : Option String :=
  (cutLast '.' text.toList).map fun parts => String.ofList parts.1

def afterLastDot (text : String) : String :=
  match cutLast '.' text.toList with
  | some (_, after) => String.ofList after
  | none => text

end ClrCompiler.Text
