import ClrCompiler.Text.Split

/-!
Paths as texts: parts between slashes, order, file names.
-/

namespace ClrCompiler.Path

def segments (path : String) : List String :=
  (Text.splitBy (· == '/') path.toList).map String.ofList

def isAbsolute (path : String) : Bool := path.toList.head? == some '/'

def isIdle (segment : String) : Bool := segment == "" || segment == "."

inductive Component where
  | root
  | current
  | parent
  | normal (name : String)
  deriving DecidableEq

def componentOf (segment : String) : Option Component :=
  if isIdle segment then none
  else if segment = ".." then some .parent
  else some (.normal segment)

/-- The parts that matter: repeated and final slashes and single dots are dropped, except for a dot
at the very beginning. -/
def components (path : String) : List Component :=
  let parts := segments path
  let first : List Component :=
    if isAbsolute path then [.root] else if parts.head? = some "." then [.current] else []
  first ++ parts.filterMap componentOf

def Component.rank : Component → Nat
  | .root => 0
  | .current => 1
  | .parent => 2
  | .normal _ => 3

def Component.order : Component → Component → Ordering
  | .normal a, .normal b => compare a b
  | a, b => compare a.rank b.rank

def order (a b : String) : Ordering :=
  List.compareLex Component.order (components a) (components b)

def notAfter (a b : String) : Bool := order a b != .gt

def beginnings (parts : List String) : List (List String) :=
  ((List.range parts.length).map fun n => parts.take (n + 1)).filter fun beginning =>
    beginning == ["."] || beginning.getLast?.any (!isIdle ·)

def join (path name : String) : String :=
  if path = "" then name
  else if path.toList.getLast? = some '/' then path ++ name
  else path ++ "/" ++ name

def fileName (path : String) : Option String :=
  match (components path).getLast? with
  | some (.normal name) => some name
  | _ => none

def cutExtension (name : String) : String × Option String :=
  match Text.cutLast '.' name.toList with
  | some (c :: before, after) => (String.ofList (c :: before), some (String.ofList after))
  | _ => (name, none)

def stem (path : String) : Option String := (fileName path).map fun name => (cutExtension name).1

def extension (path : String) : Option String :=
  (fileName path).bind fun name => (cutExtension name).2

end ClrCompiler.Path
