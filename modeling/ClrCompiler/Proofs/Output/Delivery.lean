import ClrCompiler.CodeTree.Render
import ClrCompiler.Proofs.Output.Sink

/-! What a writer is asked to do. A stream asks it for every chunk of the text and then to flush; if
a chunk fails, that is the last thing it asks and the fault is the answer. So a writer holds the
whole text or, after a fault, its beginning. -/

namespace ClrCompiler.Output

def Begins (part whole : ByteArray) : Prop := ∃ rest, whole = part ++ rest

lemma Begins.prepend {part whole : ByteArray} (h : Begins part whole) (front : ByteArray) :
    Begins (front ++ part) (front ++ whole) := by
  obtain ⟨rest, rfl⟩ := h
  exact ⟨rest, by rw [ByteArray.append_assoc]⟩

def grow (buffer : String) : Piece → String
  | .text content => buffer ++ content
  | .newline => buffer.push '\n'
  | .indent level => buffer ++ String.ofList (List.replicate (4 * level) ' ')

lemma join_replicate (level : Nat) :
    String.join (List.replicate level indentUnit) =
      String.ofList (List.replicate (4 * level) ' ') := by
  induction level with
  | zero => rfl
  | succ level ih =>
    rw [List.replicate_succ, String.join_cons, ih, Nat.mul_succ, Nat.add_comm, List.replicate_add,
      String.ofList_append]
    rfl

lemma grow_eq (buffer : String) (piece : Piece) :
    grow buffer piece = buffer ++ String.join piece.chunks := by
  cases piece with
  | text content => simp [grow, Piece.chunks]
  | newline =>
    rw [grow, Piece.chunks, ← String.toList_inj]
    simp
  | indent level => rw [grow, Piece.chunks, join_replicate]

lemma foldl_grow (buffer : String) (pieces : List Piece) :
    pieces.foldl grow buffer = buffer ++ text pieces := by
  induction pieces generalizing buffer with
  | nil => simp [text, chunks]
  | cons piece pieces ih =>
    rw [List.foldl_cons, ih, grow_eq, String.append_assoc]
    simp [text, chunks]

inductive Call where
  | write (bytes : ByteArray) (fault : Option Fault)
  | flush (fault : Option Fault)

def Call.fault : Call → Option Fault
  | write _ fault => fault
  | flush fault => fault

def Call.success (chunk : String) : Call := .write chunk.toUTF8 none

structure Watched (σ : Type) where
  writer : σ
  calls : List Call

namespace Stream

section

variable {σ : Type} {received : σ → ByteArray} {w : Watched σ} {chunk : String}
  {chunks : List String}

/-- How a stream stands after it was given these chunks: all were written, or the writer failed at
one of them and was left alone since. -/
inductive After {σ : Type} (received : σ → ByteArray) (w : Watched σ) (chunks : List String) :
    Stream (Watched σ) → Prop
  | whole {last : Watched σ} : last.calls = w.calls ++ chunks.map .success →
      received last.writer = received w.writer ++ (String.join chunks).toUTF8 →
      After received w chunks ⟨last, none⟩
  | stopped {last : Watched σ} {before after : List String} {chunk : String} {fault : Fault}
      {part : ByteArray} : chunks = before ++ chunk :: after →
      last.calls = w.calls ++ (before.map .success ++ [.write chunk.toUTF8 (some fault)]) →
      received last.writer = received w.writer ++ part → Begins part (String.join chunks).toUTF8 →
      After received w chunks ⟨last, some fault⟩

lemma toUTF8_join_cons (chunk : String) (chunks : List String) :
    (String.join (chunk :: chunks)).toUTF8 = chunk.toUTF8 ++ (String.join chunks).toUTF8 := by
  rw [String.join_cons]
  exact String.toByteArray_append

lemma After.cons {next : Watched σ} {s : Stream (Watched σ)}
    (hcalls : next.calls = w.calls ++ [.success chunk])
    (hreceived : received next.writer = received w.writer ++ chunk.toUTF8)
    (h : After received next chunks s) : After received w (chunk :: chunks) s := by
  cases h with
  | whole hc hr =>
    refine .whole ?_ ?_
    · simp [hc, hcalls]
    · rw [hr, hreceived, toUTF8_join_cons, ByteArray.append_assoc]
  | @stopped last before after failed fault part hsplit hc hr hpart =>
    have hsplit' : chunk :: chunks = chunk :: before ++ failed :: after := by simp [hsplit]
    have hr' : received last.writer = received w.writer ++ (chunk.toUTF8 ++ part) := by
      rw [hr, hreceived, ByteArray.append_assoc]
    refine .stopped hsplit' ?_ hr' ?_
    · simp [hc, hcalls]
    · rw [toUTF8_join_cons]
      exact hpart.prepend _

end

end Stream

section

variable {σ : Type} [Writer σ]

instance : Writer (Watched σ) where
  writeAll w bytes :=
    let answer := Writer.writeAll w.writer bytes
    (answer.1, ⟨answer.2, w.calls ++ [.write bytes answer.1]⟩)
  flush w :=
    let answer := Writer.flush w.writer
    (answer.1, ⟨answer.2, w.calls ++ [.flush answer.1]⟩)

structure Receives (received : σ → ByteArray) : Prop where
  whole (w : σ) (bytes : ByteArray) : (Writer.writeAll w bytes).1 = none →
    received (Writer.writeAll w bytes).2 = received w ++ bytes
  part (w : σ) (bytes : ByteArray) : (Writer.writeAll w bytes).1 ≠ none →
    ∃ part, Begins part bytes ∧ received (Writer.writeAll w bytes).2 = received w ++ part

namespace Stream

def unwatched (s : Stream (Watched σ)) : Stream σ := ⟨s.writer.writer, s.fault⟩

lemma unwatched_write (s : Stream (Watched σ)) (chunk : String) :
    (s.write chunk).unwatched = s.unwatched.write chunk := by
  obtain ⟨w, fault⟩ := s
  cases fault <;> rfl

lemma unwatched_foldl (s : Stream (Watched σ)) (chunks : List String) :
    (chunks.foldl write s).unwatched = chunks.foldl write s.unwatched := by
  induction chunks generalizing s with
  | nil => rfl
  | cons chunk chunks ih => rw [List.foldl_cons, ih, unwatched_write, List.foldl_cons]

lemma unwatched_finish (s : Stream (Watched σ)) :
    (s.finish.1, s.finish.2.writer) = s.unwatched.finish := by
  obtain ⟨w, fault⟩ := s
  cases fault <;> rfl

lemma foldl_write_of_fault (w : σ) (fault : Fault) (chunks : List String) :
    chunks.foldl write ⟨w, some fault⟩ = ⟨w, some fault⟩ := by
  induction chunks with
  | nil => rfl
  | cons chunk chunks ih => exact ih

lemma after_foldl {received : σ → ByteArray} (h : Receives received) (w : Watched σ)
    (chunks : List String) : After received w chunks (chunks.foldl write (start w)) := by
  induction chunks generalizing w with
  | nil => exact .whole (by simp) (by simp)
  | cons chunk chunks ih =>
    let next : Watched σ := (Writer.writeAll w chunk.toUTF8).2
    have hwrite : (start w).write chunk =
        ⟨next, (Writer.writeAll w.writer chunk.toUTF8).1⟩ := rfl
    have hcalls : next.calls =
        w.calls ++ [.write chunk.toUTF8 (Writer.writeAll w.writer chunk.toUTF8).1] := rfl
    rw [List.foldl_cons, hwrite]
    cases hfault : (Writer.writeAll w.writer chunk.toUTF8).1 with
    | none =>
      rw [hfault] at hcalls
      exact (ih next).cons hcalls (h.whole w.writer chunk.toUTF8 hfault)
    | some fault =>
      obtain ⟨part, ⟨rest, hpart⟩, hreceived⟩ :=
        h.part w.writer chunk.toUTF8 (by rw [hfault]; exact Option.some_ne_none fault)
      have hsplit : chunk :: chunks = [] ++ chunk :: chunks := rfl
      rw [hfault] at hcalls
      rw [foldl_write_of_fault]
      refine .stopped hsplit hcalls hreceived ?_
      rw [toUTF8_join_cons, hpart, ByteArray.append_assoc]
      exact ⟨_, rfl⟩

def watch (w : σ) (pieces : List Piece) : Stream (Watched σ) := (start ⟨w, []⟩).emit pieces

/-- How a watched stream stands after it was given the pieces, which make up the text. Without a
fault, every chunk is written, and to finish is to flush the writer. Otherwise the chunks are
written up to the first one that fails; nothing else is asked of the writer, and the fault is the
answer. -/
structure Delivered (received : σ → ByteArray) (w : σ) (pieces : List Piece) (content : String)
    (s : Stream (Watched σ)) : Prop where
  whole : (∀ call ∈ s.writer.calls, call.fault = none) →
    s.writer.calls = (chunks pieces).map .success ∧
    received s.writer.writer = received w ++ content.toUTF8 ∧
    s.finish.1 = (Writer.flush s.writer.writer).1 ∧
    s.finish.2.calls = (chunks pieces).map .success ++ [.flush s.finish.1]
  stopped : (∃ call ∈ s.writer.calls, call.fault ≠ none) →
    ∃ before chunk after fault, chunks pieces = before ++ chunk :: after ∧
      s.finish.2.calls = before.map .success ++ [.write chunk.toUTF8 (some fault)] ∧
      s.finish.1 = some fault ∧
      ∃ part, Begins part content.toUTF8 ∧ received s.finish.2.writer = received w ++ part

lemma After.delivered {received : σ → ByteArray} {w : σ} {pieces : List Piece}
    {s : Stream (Watched σ)} (h : After received ⟨w, []⟩ (chunks pieces) s) :
    Delivered received w pieces (text pieces) s := by
  cases h with
  | @whole last hcalls hreceived =>
    rw [List.nil_append] at hcalls
    refine ⟨fun _ => ⟨hcalls, hreceived, rfl, congrArg (· ++ [_]) hcalls⟩, ?_⟩
    rintro ⟨call, hin, hfault⟩
    rw [hcalls, List.mem_map] at hin
    obtain ⟨chunk, -, rfl⟩ := hin
    exact absurd rfl hfault
  | @stopped last before after chunk fault part hsplit hcalls hreceived hpart =>
    rw [List.nil_append] at hcalls
    refine ⟨fun hnone => ?_, fun _ => ⟨before, chunk, after, fault, hsplit, hcalls, rfl, part,
      hpart, hreceived⟩⟩
    have hlast : Call.write chunk.toUTF8 (some fault) ∈ last.calls := by simp [hcalls]
    exact absurd (hnone _ hlast) (Option.some_ne_none fault)

lemma delivered_watch {received : σ → ByteArray} (h : Receives received) (w : σ)
    (pieces : List Piece) : Delivered received w pieces (text pieces) (watch w pieces) :=
  (after_foldl h ⟨w, []⟩ (chunks pieces)).delivered

lemma finish_watch (w : σ) (pieces : List Piece) :
    ((watch w pieces).finish.1, (watch w pieces).finish.2.writer) =
      ((start w).emit pieces).finish := by
  rw [unwatched_finish, watch, emit, unwatched_foldl]
  rfl

theorem emit_delivers {received : σ → ByteArray} (h : Receives received) (w : σ) :
    (∀ pieces, ((watch w pieces).finish.1, (watch w pieces).finish.2.writer) =
        ((start w).emit pieces).finish ∧
      Delivered received w pieces (pieces.foldl grow "") (watch w pieces)) ∧
    ∀ n : CodeTree.Node, Delivered received w n.pieces n.render (watch w n.pieces) := by
  refine ⟨fun pieces => ⟨finish_watch w pieces, ?_⟩, fun n => delivered_watch h w n.pieces⟩
  rw [foldl_grow, String.empty_append]
  exact delivered_watch h w pieces

end Stream

end

namespace Sink

lemma write_taken (s : Sink) (bytes : ByteArray) : ∃ n, n ≤ bytes.size ∧
    (s.write bytes).2.taken = s.taken ++ bytes.extract 0 n ∧
    ∀ m, (s.write bytes).1 = .ok m → m = n := by
  by_cases hfull : s.isFull
  · refine ⟨0, Nat.zero_le _, ?_, ?_⟩
    · cases hr : s.recovers <;> simp [write, hfull, hr]
    · cases hsilent : s.silent <;> simp [write, hfull, hsilent]
  · refine ⟨s.portion bytes.size, s.portion_le bytes.size, ?_, ?_⟩
    · simp [write, hfull]
    · simp [write, hfull, eq_comm]

def Takes (s : Sink) (bytes : ByteArray) (answer : Option Fault × Sink) : Prop :=
  (answer.1 = none → answer.2.taken = s.taken ++ bytes) ∧
    ∃ part, Begins part bytes ∧ answer.2.taken = s.taken ++ part

lemma takes_of_fault {s next : Sink} {bytes part : ByteArray} (fault : Fault)
    (hpart : Begins part bytes) (htaken : next.taken = s.taken ++ part) :
    Takes s bytes (some fault, next) :=
  ⟨fun h => absurd h (Option.some_ne_none fault), part, hpart, htaken⟩

lemma Takes.prepend {s next : Sink} {front rest : ByteArray} {answer : Option Fault × Sink}
    (htaken : next.taken = s.taken ++ front) (h : Takes next rest answer) :
    Takes s (front ++ rest) answer := by
  obtain ⟨hwhole, part, hpart, hreceived⟩ := h
  refine ⟨fun hnone => ?_, front ++ part, hpart.prepend front, ?_⟩
  · rw [hwhole hnone, htaken, ByteArray.append_assoc]
  · rw [hreceived, htaken, ByteArray.append_assoc]

-- an attempt takes some of the bytes that are left, or else it ends the loop with a fault
lemma takes_writeLoop (s : Sink) {attempts : Nat} {bytes : ByteArray}
    (ha : bytes.size < attempts) : Takes s bytes (writeLoop attempts s bytes) := by
  induction attempts generalizing s bytes with
  | zero => omega
  | succ attempts ih =>
    obtain ⟨n, hle, htaken, hok⟩ := s.write_taken bytes
    have hjoined := extract_append_rest hle
    have hbegins : Begins (bytes.extract 0 n) bytes := ⟨_, hjoined.symm⟩
    rw [writeLoop]
    split
    · rename_i hempty
      have he : bytes = .empty := by simpa [ByteArray.isEmpty] using hempty
      have hsame : s.taken = s.taken ++ bytes := by rw [he, ByteArray.append_empty]
      exact ⟨fun _ => hsame, bytes, ⟨.empty, ByteArray.append_empty.symm⟩, hsame⟩
    · generalize s.write bytes = answer at htaken hok ⊢
      obtain ⟨result, next⟩ := answer
      cases result with
      | error fault => exact takes_of_fault fault hbegins htaken
      | ok taken =>
        obtain rfl := hok taken rfl
        cases taken with
        | zero => exact takes_of_fault .shortWrite hbegins htaken
        | succ m =>
          have hrest : (bytes.extract (m + 1) bytes.size).size < attempts := by
            rw [ByteArray.size_extract]
            omega
          have hwhole := (ih next hrest).prepend htaken
          rwa [hjoined] at hwhole

lemma receives_taken : Receives taken where
  whole s bytes := (s.takes_writeLoop (Nat.lt_succ_self bytes.size)).1
  part s bytes _ := (s.takes_writeLoop (Nat.lt_succ_self bytes.size)).2

def narrow : Sink := { unlimited with capacity := some 5, recovers := true }

end Sink

namespace Stream

def indentedLine : List Piece := [.text "ab", .newline, .indent 2, .text "x"]

theorem emit_delivers_narrow :
    let s := watch Sink.narrow indentedLine
    s.finish.1 = some .diskFull ∧ s.finish.2.writer.taken = "ab\n  ".toUTF8 ∧
      ∃ before chunk after fault, chunks indentedLine = before ++ chunk :: after ∧
        s.finish.2.calls = before.map .success ++ [.write chunk.toUTF8 (some fault)] ∧
        s.finish.1 = some fault := by
  intro s
  have hfault : ∃ call ∈ s.writer.calls, call.fault ≠ none := by decide +kernel
  obtain ⟨before, chunk, after, fault, hsplit, hcalls, hanswer, -⟩ :=
    ((emit_delivers Sink.receives_taken Sink.narrow).1 indentedLine).2.stopped hfault
  exact ⟨by decide +kernel, by decide +kernel, before, chunk, after, fault, hsplit, hcalls, hanswer⟩

end Stream

end ClrCompiler.Output
