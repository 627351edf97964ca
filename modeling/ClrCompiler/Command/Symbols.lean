import ClrCompiler.Command.Assemblies
import ClrCompiler.Listing

/-!
The command that lists the symbols of assembly descriptions.
-/

namespace ClrCompiler.Command

def symbolListing (assemblies : Assemblies) : String :=
  let (library, names) :=
    (Library.ofAssemblies assemblies Library.defaultImplicitPackages).run .new
  Listing.text names library.registry

def symbols (arguments : List String) : Action Unit :=
  if arguments.isEmpty then throw (.usage .noAssemblies)
  else
    match arguments.find? isOption with
    | some flag => throw (.usage (.unknownOption flag))
    | none => do
      let assemblies ← Action.query (readAssemblies · arguments)
      Action.print (symbolListing assemblies)

end ClrCompiler.Command
