import ClrCompiler.Registry

/-!
The text listing of a registry, sorted by the shown identities of the classes.
-/

namespace ClrCompiler.Listing

def parameterText (names : Interner) (p : Symbol.Parameter) : String :=
  names.text p.name ++ ": " ++ p.type.text names

def parametersText (names : Interner) (ps : List Symbol.Parameter) : String :=
  String.intercalate ", " (ps.map (parameterText names))

def constructorLine (names : Interner) (c : Symbol.Constructor) : String :=
  "    constructor(" ++ parametersText names c.parameters ++ ")"
    ++ (if c.isStatic then " static" else "") ++ "\n"

def functionLine (names : Interner) (f : Symbol.Function) : String :=
  "    " ++ String.join (f.annotations.map fun mark => "@" ++ mark.text names ++ " ")
    ++ "fun " ++ names.text f.name ++ "(" ++ parametersText names f.parameters ++ "): "
    ++ f.returnType.text names ++ "\n"

def classHead (names : Interner) (c : Symbol.Class) : String :=
  c.kind.keyword ++ " " ++ c.id.text names ++ " [" ++ c.status.visibility.keyword ++ " "
    ++ c.status.modality.keyword ++ "]"
    ++ (match c.companion with
        | some id => " companion=" ++ id.text names
        | none => "")
    ++ "\n"

def classText (names : Interner) (c : Symbol.Class) : String :=
  classHead names c
    ++ String.join (c.constructors.map (constructorLine names))
    ++ String.join (c.functions.map (functionLine names))

def sorted (names : Interner) (classes : List Symbol.Class) : List Symbol.Class :=
  classes.mergeSort fun a b => decide (a.id.text names ≤ b.id.text names)

def text (names : Interner) (r : Registry) : String :=
  String.join ((sorted names r.listing).map (classText names))

end ClrCompiler.Listing
