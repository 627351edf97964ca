import ClrCompiler.Output.Stream
import Mathlib.Data.List.Basic

/-! Sinks that never refuse a byte: all that is written to them arrives, in order. -/

namespace ClrCompiler.Output

namespace Sink

structure TakesAll (s : Sink) : Prop where
  room : s.capacity = none
  progress : s.chunk ≠ some 0
  flushes : s.flushFails = false

lemma takesAll_unlimited : TakesAll unlimited := ⟨rfl, by simp [unlimited], rfl⟩

variable {s : Sink}

lemma TakesAll.append (h : s.TakesAll) (bytes : ByteArray) :
    TakesAll { s with taken := s.taken ++ bytes } :=
  ⟨h.room, h.progress, h.flushes⟩

lemma TakesAll.portion_pos (h : s.TakesAll) {count : Nat} (hc : 0 < count) : 0 < s.portion count := by
  have hroom := h.room
  have hprogress := h.progress
  cases hchunk : s.chunk with
  | none => simp [portion, hroom, hchunk, hc]
  | some k =>
    have hk : k ≠ 0 := by
      rintro rfl
      exact hprogress hchunk
    simp only [portion, hroom, hchunk, Option.map_none, Option.getD_none, Option.getD_some]
    omega

lemma portion_le (s : Sink) (count : Nat) : s.portion count ≤ count := Nat.min_le_left _ _

lemma TakesAll.write_eq (h : s.TakesAll) (bytes : ByteArray) :
    s.write bytes = (.ok (s.portion bytes.size),
      { s with taken := s.taken ++ bytes.extract 0 (s.portion bytes.size) }) := by
  have hfull : s.isFull = false := by simp [isFull, h.room]
  simp [write, hfull]

lemma extract_append_rest {bytes : ByteArray} {n : Nat} (h : n ≤ bytes.size) :
    bytes.extract 0 n ++ bytes.extract n bytes.size = bytes := by
  rw [← ByteArray.extract_eq_extract_append_extract n (Nat.zero_le _) h,
    ByteArray.extract_zero_size]

lemma TakesAll.writeLoop_eq (h : s.TakesAll) {attempts : Nat} {bytes : ByteArray}
    (ha : bytes.size < attempts) :
    writeLoop attempts s bytes = (none, { s with taken := s.taken ++ bytes }) := by
  induction attempts generalizing s bytes with
  | zero => omega
  | succ attempts ih =>
    rw [writeLoop]
    split <;> rename_i hempty
    · have he : bytes = .empty := by simpa [ByteArray.isEmpty] using hempty
      rw [he, ByteArray.append_empty]
    · have hpos : 0 < bytes.size := by
        simp only [ByteArray.isEmpty, beq_iff_eq] at hempty
        omega
      have hportion := h.portion_pos hpos
      obtain ⟨n, hn⟩ := Nat.exists_eq_succ_of_ne_zero (Nat.ne_of_gt hportion)
      have hle := s.portion_le bytes.size
      have hrest : (bytes.extract (n + 1) bytes.size).size < attempts := by
        rw [ByteArray.size_extract]
        omega
      have hjoined : bytes.extract 0 (n + 1) ++ bytes.extract (n + 1) bytes.size = bytes :=
        extract_append_rest (by omega)
      rw [h.write_eq, hn]
      change writeLoop attempts _ (bytes.extract (n + 1) bytes.size) = _
      rw [ih (h.append _) hrest, ByteArray.append_assoc, hjoined]

lemma TakesAll.writeAll_eq (h : s.TakesAll) (bytes : ByteArray) :
    s.writeAll bytes = (none, { s with taken := s.taken ++ bytes }) :=
  h.writeLoop_eq (Nat.lt_succ_self _)

lemma TakesAll.foldl_write (h : s.TakesAll) (chunks : List String) :
    chunks.foldl Stream.write (Stream.start s) =
      Stream.start { s with taken := s.taken ++ (String.join chunks).toUTF8 } := by
  induction chunks generalizing s with
  | nil => simp
  | cons chunk chunks ih =>
    have hwrite : (Stream.start s).write chunk =
        Stream.start { s with taken := s.taken ++ chunk.toUTF8 } := by
      change Stream.mk (s.writeAll chunk.toUTF8).2 (s.writeAll chunk.toUTF8).1 = _
      rw [h.writeAll_eq]
      rfl
    rw [List.foldl_cons, hwrite, ih (h.append _), String.join_cons]
    simp [ByteArray.append_assoc]

lemma TakesAll.finish_emit (h : s.TakesAll) (pieces : List Piece) :
    ((Stream.start s).emit pieces).finish =
      (none, { s with taken := s.taken ++ (text pieces).toUTF8, flushes := s.flushes + 1 }) := by
  rw [Stream.emit, h.foldl_write]
  change (if s.flushFails then some Fault.flushFailed else none, _) = _
  rw [h.flushes]
  rfl

end Sink

end ClrCompiler.Output
