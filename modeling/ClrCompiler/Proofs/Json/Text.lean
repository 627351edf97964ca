import ClrCompiler.Json.Text
import Mathlib.Data.List.Basic

/-! A quoted text is read back as it was written, whatever follows it. -/

namespace ClrCompiler.Json.Text

lemma hexValue?_hexDigit {n : Nat} (h : n < 16) : hexValue? (hexDigit n) = some n := by
  have hall : ∀ n < 16, hexValue? (hexDigit n) = some n := by decide
  exact hall n h

lemma unit_none {n : Nat} (h : n < 0xD800) : unit none n = .ok (.inl (Char.ofNat n)) := by
  have htrail : isTrail n = false := by simp [isTrail]; omega
  have hlead : isLead n = false := by simp [isLead]; omega
  simp [unit, htrail, hlead]

lemma scan_byte {n : Nat} (h : n < 256) (seen rest : List Char) :
    scan .plain seen
        (['\\', 'u', '0', '0', hexDigit (n / 16), hexDigit (n % 16)] ++ rest) =
      scan .plain (Char.ofNat n :: seen) rest := by
  have hhigh := hexValue?_hexDigit (show n / 16 < 16 by omega)
  have hlow := hexValue?_hexDigit (show n % 16 < 16 by omega)
  have hzero : hexValue? '0' = some 0 := by decide
  have hvalue : n / 16 * 16 + n % 16 = n := by omega
  have hunit := unit_none (show n < 0xD800 by omega)
  simp [scan, hzero, hhigh, hlow, hvalue, hunit]

lemma scan_plain {c : Char} (hquote : c ≠ '"') (hslash : c ≠ '\\') (hc : 0x20 ≤ c.toNat)
    (seen rest : List Char) : scan .plain seen (c :: rest) = scan .plain (c :: seen) rest := by
  have hlt : ¬ c.toNat < 0x20 := by omega
  simp [scan, hquote, hslash, hlt]

lemma scan_escaped (c : Char) (seen rest : List Char) :
    scan .plain seen (escaped c ++ rest) = scan .plain (c :: seen) rest := by
  rw [escaped.eq_def]
  split
  iterate 7 rfl
  · rename_i hquote hslash _ _ _ _ _
    split <;> rename_i hc
    · have hbyte := scan_byte (show c.toNat < 256 by omega) seen rest
      rwa [Char.ofNat_toNat] at hbyte
    · exact scan_plain (by simpa using hquote) (by simpa using hslash) (by omega) seen rest

lemma scan_flatMap_escaped (cs seen rest : List Char) :
    scan .plain seen (cs.flatMap escaped ++ '"' :: rest) =
      .ok (String.ofList (seen.reverse ++ cs), rest) := by
  induction cs generalizing seen with
  | nil => simp [scan]
  | cons c cs ih =>
    rw [List.flatMap_cons, List.append_assoc, scan_escaped, ih, List.reverse_cons, List.append_assoc,
      List.singleton_append]

lemma read_write (text : String) (rest : List Char) :
    read (text.toList.flatMap escaped ++ '"' :: rest) = .ok (text, rest) := by
  simpa [read] using scan_flatMap_escaped text.toList [] rest

end ClrCompiler.Json.Text
