import ClrCompiler.Command.Check
import ClrCompiler.Command.Render
import ClrCompiler.Command.Symbols

/-!
The command-line program: what it prints and how it ends for given arguments.
-/

namespace ClrCompiler.Command

def usageLines : List String :=
  ["CLR compiler core",
   "",
   "Usage: clrc <command> [options]",
   "",
   "Commands:",
   "  symbols <assembly.json>...   List symbols built from assembly descriptions",
   "  render <tree.json> [-o <f>]  Render a serialized code tree",
   "  check [options]              Validate inputs and resolve symbols",
   "  help                         Show this message",
   "",
   "Check options:",
   "  -s, --source <dir>           Source root (repeatable)",
   "  -a, --assembly <file>        Assembly description (repeatable)",
   "  --module <name>              Module name (default: main)",
   "  -o, --output <dir>           Write a symbol listing here",
   "  --implicit-package <name>    Package that always exists (repeatable)",
   "",
   "Set CLR_LOG (e.g. CLR_LOG=clr_symbols=debug) for tracing output."]

def usage : String := String.join (usageLines.map (· ++ "\n"))

/-- How a run ends: whether it succeeded and what it says besides its output, less the positions in
JSON texts. -/
structure Ending where
  succeeded : Bool
  messages : String

def Ending.exitCode (e : Ending) : Nat := if e.succeeded then 0 else 1

def silent : Ending := ⟨true, ""⟩

def checkEnding (diagnostics : Diagnostics) : Ending :=
  if diagnostics.hasErrors then
    ⟨false, diagnostics.text ++ "error: aborting due to " ++ toString diagnostics.errorCount
      ++ " error(s)\n"⟩
  else ⟨true, diagnostics.text⟩

def runCheck (arguments : List String) : Action Ending :=
  match Options.parse arguments with
  | .error error => throw (.usage error)
  | .ok options => do
    let (_, diagnostics) ← check options .empty
    return checkEnding diagnostics

def dispatch (command : String) (arguments : List String) : Action Ending :=
  match command with
  | "symbols" => do symbols arguments; return silent
  | "render" => do render arguments; return silent
  | "check" => runCheck arguments
  | "help" => return ⟨true, usage⟩
  | "--help" => return ⟨true, usage⟩
  | "-h" => return ⟨true, usage⟩
  | other => throw (.usage (.unknownCommand other))

def errorEnding : Error → Ending
  | .usage error => ⟨false, "error: " ++ error.message ++ "\n\n" ++ usage⟩
  | error => ⟨false, "error: " ++ error.message ++ "\n"⟩

def program (arguments : List String) (world : World) : Ending × World :=
  match arguments with
  | [] => (⟨false, usage⟩, world)
  | command :: rest =>
    match (dispatch command rest).run.run world with
    | (.ok ending, world) => (ending, world)
    | (.error error, world) => (errorEnding error, world)

end ClrCompiler.Command
