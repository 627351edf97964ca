/-!
Diagnostics: problems with the user's input, collected so that one run reports all of them.
-/

namespace ClrCompiler

inductive Severity where
  | error
  | warning
  | note
  deriving DecidableEq

def Severity.text : Severity → String
  | .error => "error"
  | .warning => "warning"
  | .note => "note"

namespace Diagnostic

inductive Code where
  | noSources
  | missingRoot
  | badAssembly
  deriving DecidableEq

namespace Code

def all : List Code := [.noSources, .missingRoot, .badAssembly]

def text : Code → String
  | .noSources => "E0001"
  | .missingRoot => "E0002"
  | .badAssembly => "E0003"

def description : Code → String
  | .noSources => "no source files"
  | .missingRoot => "source root does not exist"
  | .badAssembly => "invalid assembly description"

end Code

end Diagnostic

structure Diagnostic where
  severity : Severity
  code : Diagnostic.Code
  message : String
  deriving DecidableEq

namespace Diagnostic

def text (d : Diagnostic) : String := d.severity.text ++ "[" ++ d.code.text ++ "]: " ++ d.message

end Diagnostic

structure Diagnostics where
  items : List Diagnostic
  deriving DecidableEq

namespace Diagnostics

def empty : Diagnostics := ⟨[]⟩

def report (ds : Diagnostics) (severity : Severity) (code : Diagnostic.Code) (message : String) :
    Diagnostics :=
  ⟨ds.items ++ [⟨severity, code, message⟩]⟩

def errorCount (ds : Diagnostics) : Nat := ds.items.countP (·.severity == .error)

def hasErrors (ds : Diagnostics) : Bool := 0 < ds.errorCount

def hasCode (ds : Diagnostics) (code : Diagnostic.Code) : Bool := ds.items.any (·.code == code)

def text (ds : Diagnostics) : String := String.join (ds.items.map fun d => d.text ++ "\n")

end Diagnostics

end ClrCompiler
