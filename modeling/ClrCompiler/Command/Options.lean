import ClrCompiler.Command.Error
import ClrCompiler.Library

/-!
The options of the check command. A long flag may carry its value after an equals sign; every other
flag takes the next argument, whatever it looks like.
-/

namespace ClrCompiler.Command

structure Options where
  moduleName : String
  assemblies : List String
  sourceRoots : List String
  outputDirectory : Option String
  implicitPackages : List String
  deriving DecidableEq

namespace Options

def standard : Options := ⟨"main", [], [], none, Library.defaultImplicitPackages⟩

inductive Target where
  | source
  | assembly
  | moduleName
  | output
  | implicitPackage
  deriving DecidableEq

def targetOf : String → Option Target
  | "--source" => some .source
  | "-s" => some .source
  | "--assembly" => some .assembly
  | "-a" => some .assembly
  | "--module" => some .moduleName
  | "--output" => some .output
  | "-o" => some .output
  | "--implicit-package" => some .implicitPackage
  | _ => none

def set (o : Options) (target : Target) (value : String) : Options :=
  match target with
  | .source => { o with sourceRoots := o.sourceRoots ++ [value] }
  | .assembly => { o with assemblies := o.assemblies ++ [value] }
  | .moduleName => { o with moduleName := value }
  | .output => { o with outputDirectory := some value }
  | .implicitPackage => { o with implicitPackages := o.implicitPackages ++ [value] }

def cut (argument : String) : String × Option String :=
  let before := argument.toList.takeWhile (· != '=')
  let after := argument.toList.drop before.length
  match before, after with
  | '-' :: '-' :: _, '=' :: value => (String.ofList before, some (String.ofList value))
  | _, _ => (argument, none)

def parseFrom (o : Options) : List String → Except UsageError Options
  | [] => .ok o
  | argument :: rest =>
    let (flag, value) := cut argument
    match targetOf flag, value, rest with
    | some target, some value, rest => parseFrom (o.set target value) rest
    | some target, none, value :: rest => parseFrom (o.set target value) rest
    | some _, none, [] => .error (.missingValue flag)
    | none, _, rest =>
      if isOption argument then .error (.unknownOption argument)
      else parseFrom (o.set .source argument) rest

def parse (arguments : List String) : Except UsageError Options := standard.parseFrom arguments

end Options

end ClrCompiler.Command
