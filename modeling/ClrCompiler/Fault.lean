/-!
What can go wrong when bytes are read from or written to the outside.
-/

namespace ClrCompiler

inductive Fault where
  | notFound
  | notDirectory
  | isDirectory
  | alreadyExists
  | invalidText
  | diskFull
  | shortWrite
  | flushFailed
  deriving DecidableEq

def Fault.message : Fault → String
  | .notFound => "No such file or directory (os error 2)"
  | .notDirectory => "Not a directory (os error 20)"
  | .isDirectory => "Is a directory (os error 21)"
  | .alreadyExists => "File exists (os error 17)"
  | .invalidText => "stream did not contain valid UTF-8"
  | .diskFull => "disk full"
  | .shortWrite => "failed to write whole buffer"
  | .flushFailed => "flush failed"

end ClrCompiler
