import ClrCompiler.Fault
import ClrCompiler.Output

/-!
Streams write pieces into a writer. The first fault is kept and nothing is written after it.
-/

namespace ClrCompiler.Output

class Writer (σ : Type) where
  writeAll : σ → ByteArray → Option Fault × σ
  flush : σ → Option Fault × σ

structure Stream (σ : Type) where
  writer : σ
  fault : Option Fault

namespace Stream

variable {σ : Type} [Writer σ]

def start (writer : σ) : Stream σ := ⟨writer, none⟩

def write (s : Stream σ) (chunk : String) : Stream σ :=
  match s.fault with
  | some _ => s
  | none =>
    let (fault, writer) := Writer.writeAll s.writer chunk.toUTF8
    ⟨writer, fault⟩

def emit (s : Stream σ) (pieces : List Piece) : Stream σ := (chunks pieces).foldl write s

def finish (s : Stream σ) : Option Fault × σ :=
  match s.fault with
  | some fault => (some fault, s.writer)
  | none => Writer.flush s.writer

end Stream

/-- A writer with limited room. It takes at most `chunk` bytes at a time and `capacity` bytes in
all. When it is full it reports a fault or, if `silent`, takes nothing; if `recovers`, it has
unlimited room from then on. -/
structure Sink where
  taken : ByteArray
  capacity : Option Nat
  chunk : Option Nat
  silent : Bool
  recovers : Bool
  flushFails : Bool
  flushes : Nat

namespace Sink

def unlimited : Sink := ⟨.empty, none, none, false, false, false, 0⟩

def broken : Sink := { unlimited with capacity := some 0 }

def isFull (s : Sink) : Bool := s.capacity.any (· ≤ s.taken.size)

def portion (s : Sink) (count : Nat) : Nat :=
  let room := (s.capacity.map (· - s.taken.size)).getD count
  min count (min room (s.chunk.getD count))

def write (s : Sink) (bytes : ByteArray) : Except Fault Nat × Sink :=
  if s.isFull then
    (if s.silent then .ok 0 else .error .diskFull,
      if s.recovers then { s with capacity := none } else s)
  else
    let n := s.portion bytes.size
    (.ok n, { s with taken := s.taken ++ bytes.extract 0 n })

/-- Attempts go on until all bytes are taken or one attempt takes none; as many attempts as there
are bytes are enough. -/
def writeLoop : Nat → Sink → ByteArray → Option Fault × Sink
  | 0, s, _ => (none, s)
  | attempts + 1, s, bytes =>
    if bytes.isEmpty then (none, s)
    else
      match s.write bytes with
      | (.error fault, s) => (some fault, s)
      | (.ok 0, s) => (some .shortWrite, s)
      | (.ok n, s) => writeLoop attempts s (bytes.extract n bytes.size)

def writeAll (s : Sink) (bytes : ByteArray) : Option Fault × Sink :=
  writeLoop (bytes.size + 1) s bytes

def flush (s : Sink) : Option Fault × Sink :=
  (if s.flushFails then some .flushFailed else none, { s with flushes := s.flushes + 1 })

instance : Writer Sink := ⟨writeAll, flush⟩

end Sink

end ClrCompiler.Output
