import ClrCompiler.Fault
import ClrCompiler.Json.Error

/-!
Why a command stops.
-/

namespace ClrCompiler.Command

def isOption (argument : String) : Bool := argument.toList.head? == some '-'

inductive UsageError where
  | unknownOption (argument : String)
  | missingValue (flag : String)
  | unexpectedArgument (argument : String)
  | noAssemblies
  | noTree
  | unknownCommand (name : String)
  deriving DecidableEq

def UsageError.message : UsageError → String
  | .unknownOption argument => "unknown option `" ++ argument ++ "`"
  | .missingValue flag => "missing value for `" ++ flag ++ "`"
  | .unexpectedArgument argument => "unexpected argument `" ++ argument ++ "`"
  | .noAssemblies => "usage: clrc symbols <assembly.json>..."
  | .noTree => "usage: clrc render <tree.json> [-o <file>]"
  | .unknownCommand name => "unknown command '" ++ name ++ "'"

inductive Error where
  | read (path : String) (fault : Fault)
  | write (path : String) (fault : Fault)
  | json (path : String) (error : Json.Error)
  | output (fault : Fault)
  | usage (error : UsageError)
  deriving DecidableEq

def Error.message : Error → String
  | .read path fault => "cannot read `" ++ path ++ "`: " ++ fault.message
  | .write path fault => "cannot write `" ++ path ++ "`: " ++ fault.message
  | .json path error => "invalid JSON in `" ++ path ++ "`: " ++ error.message
  | .output fault => "failed to write output: " ++ fault.message
  | .usage error => error.message

end ClrCompiler.Command
