import ClrCompiler.Json.Reader
import ClrCompiler.Json.Value
import ClrCompiler.Proofs.Json.Text
import Mathlib.Data.List.Forall2

/-! What readers make of written values: the value they stand for, or the error for too deep a nesting
and no other one. -/

namespace ClrCompiler.Json

lemma bind_ok {α β : Type} (a : α) (f : α → Except Error β) : (Except.ok a >>= f) = f a := rfl

def within {α : Type} (depth : Nat) (limits : Limits) (a : α) : Except Error α :=
  if depth ≤ limits.depth then .ok a else .error .tooDeep

section

variable {α β : Type} {m n : Nat} {limits : Limits} {a : α} {b : β}

lemma within_zero (limits : Limits) (a : α) : within 0 limits a = .ok a := if_pos (Nat.zero_le _)

lemma within_bind {f : α → Except Error β} (h : f a = within n limits b) :
    (within m limits a >>= f) = within (max m n) limits b := by
  simp only [within] at h ⊢
  by_cases hm : m ≤ limits.depth
  · rw [if_pos hm, bind_ok, h]
    simp only [Nat.max_le, hm, true_and]
  · rw [if_neg hm, if_neg fun hmax => hm (Nat.le_trans (Nat.le_max_left m n) hmax)]
    rfl

lemma within_bind_ok {f : α → Except Error β} (h : f a = .ok b) :
    (within m limits a >>= f) = within m limits b := by
  rw [← within_zero limits b] at h
  rw [within_bind h, Nat.max_zero]

lemma enter_bind {f : Limits → Except Error β}
    (h : ∀ inner, inner.depth + 1 = limits.depth → inner.size = limits.size →
      f inner = within n inner b) :
    (Reader.enter limits >>= f) = within (n + 1) limits b := by
  obtain ⟨depth, size⟩ := limits
  cases depth with
  | zero => rfl
  | succ depth =>
    have hf := h ⟨depth, size⟩ rfl rfl
    simp only [within] at hf ⊢
    rw [show Reader.enter ⟨depth + 1, size⟩ = .ok ⟨depth, size⟩ from rfl, bind_ok, hf]
    simp only [Nat.add_le_add_iff_right]

end

namespace Value

lemma write_begins (v : Value) :
    ∃ c rest, v.write = c :: rest ∧ isBlank c = false ∧ c ≠ ']' := by
  cases v with
  | null => exact ⟨_, _, rfl, by decide, by decide⟩
  | boolean b => cases b <;> exact ⟨_, _, rfl, by decide, by decide⟩
  | text s => exact ⟨_, _, rfl, by decide, by decide⟩
  | list vs => cases vs <;> exact ⟨_, _, rfl, by decide, by decide⟩
  | object ms => cases ms <;> exact ⟨_, _, rfl, by decide, by decide⟩

def writeList : List Value → List Char
  | [] => [']']
  | v :: vs => v.write ++ writeItems vs

def writeObject : List (String × Value) → List Char
  | [] => ['\x7d']
  | (k, v) :: ms => Text.write k ++ ':' :: (v.write ++ writeMembers ms)

lemma write_text (s : String) (rest : List Char) :
    (text s).write ++ rest = '"' :: (s.toList.flatMap Text.escaped ++ '"' :: rest) := by
  rw [show (text s).write = Text.write s from rfl]
  simp [Text.write]

lemma write_list (vs : List Value) : (list vs).write = '[' :: writeList vs := by
  cases vs <;> rfl

lemma write_object (ms : List (String × Value)) : (object ms).write = '\x7b' :: writeObject ms := by
  cases ms <;> rfl

lemma length_lt_writeItems (vs : List Value) : vs.length < (writeItems vs).length := by
  induction vs with
  | nil => simp [writeItems]
  | cons v vs ih =>
    simp only [writeItems, List.length_cons, List.length_append]
    omega

lemma length_le_writeList (vs : List Value) : vs.length ≤ (writeList vs).length := by
  cases vs with
  | nil => simp
  | cons v vs =>
    obtain ⟨c, rest, hw, -⟩ := v.write_begins
    have hlt := length_lt_writeItems vs
    simp only [writeList, hw, List.length_cons, List.length_append]
    omega

lemma length_lt_writeMembers (ms : List (String × Value)) : ms.length < (writeMembers ms).length := by
  induction ms with
  | nil => simp [writeMembers]
  | cons m ms ih =>
    obtain ⟨k, v⟩ := m
    simp only [writeMembers, List.length_cons, List.length_append]
    omega

lemma length_le_writeObject (ms : List (String × Value)) : ms.length ≤ (writeObject ms).length := by
  cases ms with
  | nil => simp
  | cons m ms =>
    obtain ⟨k, v⟩ := m
    have hlt := length_lt_writeMembers ms
    simp only [writeObject, List.length_cons, List.length_append]
    omega

end Value

/-- A reader that is used at depths below a bound reads a written value, whatever follows it. -/
def Reads {α : Type} (bound : Nat) (reader : Reader α) (v : Value) (a : α) : Prop :=
  ∀ limits rest, limits.depth < bound → (v.write ++ rest).length ≤ limits.size →
    reader limits (v.write ++ rest) = within v.depth limits (a, rest)

namespace Reads

variable {α β : Type} {bound : Nat} {reader : Reader α} {v : Value} {a : α}

lemma mono {lower : Nat} (hle : lower ≤ bound) (h : Reads bound reader v a) :
    Reads lower reader v a :=
  fun limits rest hd hs => h limits rest (Nat.lt_of_lt_of_le hd hle) hs

lemma zero (reader : Reader α) (v : Value) (a : α) : Reads 0 reader v a :=
  fun _ _ hd => absurd hd (Nat.not_lt_zero _)

lemma map (h : Reads bound reader v a) (f : α → β) : Reads bound (reader.map f) v (f a) := by
  intro limits rest hd hs
  simp only [Reader.map, h limits rest hd hs, within]
  split <;> rfl

lemma text (bound : Nat) (s : String) : Reads bound Reader.text (.text s) s := by
  intro limits rest _ _
  rw [show (Value.text s).depth = 0 from rfl, within_zero, Value.write_text]
  exact Text.read_write s rest

lemma boolean (bound : Nat) (b : Bool) : Reads bound Reader.boolean (.boolean b) b := by
  intro limits rest _ _
  cases b <;> exact (within_zero limits _).symm

lemma optionalText (bound : Nat) (s : Option String) :
    Reads bound (.optional .text) (.optional s) s := by
  intro limits rest hd hs
  cases s with
  | none => exact (within_zero limits _).symm
  | some s =>
    change (Reader.text limits ((Value.text s).write ++ rest) >>= fun (p : String × List Char) =>
      Except.ok (some p.1, p.2)) = _
    rw [Reads.text bound s limits rest hd hs]
    exact within_bind_ok rfl

lemma nextItem_write (v : Value) (rest : List Char) :
    Reader.nextItem true (v.write ++ rest) = .ok (some (v.write ++ rest)) := by
  obtain ⟨c, cs, hw, hblank, hclose⟩ := v.write_begins
  simp [Reader.nextItem, hw, skipBlank, hblank, hclose]

lemma nextItem_comma (v : Value) (rest : List Char) :
    Reader.nextItem false (',' :: (v.write ++ rest)) = .ok (some (v.write ++ rest)) := by
  obtain ⟨c, cs, hw, hblank, hclose⟩ := v.write_begins
  have hcomma : skipBlank (',' :: (c :: cs ++ rest)) = ',' :: (c :: cs ++ rest) := rfl
  have hfirst : skipBlank (c :: cs ++ rest) = c :: cs ++ rest := by simp [skipBlank, hblank]
  simp only [Reader.nextItem, hw, hcomma, hfirst]
  simp [hclose]

lemma items_step {limits : Limits} {fuel m n : Nat} {isFirst : Bool} {input next rest last : List Char}
    {as : List α} (hnext : Reader.nextItem isFirst input = .ok (some next))
    (hv : reader limits next = within m limits (a, rest))
    (has : Reader.items reader limits fuel false rest = within n limits (as, last)) :
    Reader.items reader limits (fuel + 1) isFirst input = within (max m n) limits (a :: as, last) := by
  rw [Reader.items, hnext, bind_ok]
  simp only [hv]
  apply within_bind
  simp only [has]
  exact within_bind_ok rfl

lemma items_writeItems {vs : List Value} {as : List α} (h : List.Forall₂ (Reads bound reader) vs as)
    {limits : Limits} (hd : limits.depth < bound) {rest : List Char}
    (hs : (Value.writeItems vs ++ rest).length ≤ limits.size) {fuel : Nat} (hf : vs.length < fuel) :
    Reader.items reader limits fuel false (Value.writeItems vs ++ rest) =
      within (Value.depthItems vs) limits (as, ']' :: rest) := by
  induction h generalizing fuel with
  | nil =>
    obtain ⟨fuel, rfl⟩ := Nat.exists_eq_add_of_lt hf
    exact (within_zero limits _).symm
  | @cons v a vs as hv _ ih =>
    cases fuel with
    | zero => cases hf
    | succ fuel =>
      simp only [Value.writeItems, Value.depthItems, List.cons_append, List.append_assoc,
        List.length_cons, List.length_append, Nat.succ_lt_succ_iff] at hs hf ⊢
      apply items_step (nextItem_comma v _)
      · exact hv limits _ hd (by simp only [List.length_append]; omega)
      · exact ih (by simp only [List.length_append]; omega) hf

lemma items_writeList {vs : List Value} {as : List α} (h : List.Forall₂ (Reads bound reader) vs as)
    {limits : Limits} (hd : limits.depth < bound) {rest : List Char}
    (hs : (Value.writeList vs ++ rest).length ≤ limits.size) {fuel : Nat} (hf : vs.length < fuel) :
    Reader.items reader limits fuel true (Value.writeList vs ++ rest) =
      within (Value.depthItems vs) limits (as, ']' :: rest) := by
  cases fuel with
  | zero => cases hf
  | succ fuel =>
    cases h with
    | nil => exact (within_zero limits _).symm
    | @cons v a vs as hv has =>
      simp only [Value.writeList, Value.depthItems, List.append_assoc, List.length_cons,
        List.length_append, Nat.succ_lt_succ_iff] at hs hf ⊢
      apply items_step (nextItem_write v _)
      · exact hv limits _ hd (by simp only [List.length_append]; omega)
      · exact items_writeItems has hd (by simp only [List.length_append]; omega) hf

lemma list {vs : List Value} {as : List α} (h : List.Forall₂ (Reads bound reader) vs as) :
    Reads (bound + 1) (.list reader) (.list vs) as := by
  intro limits rest hd hs
  rw [Value.write_list, List.cons_append] at hs ⊢
  simp only [List.length_cons, List.length_append] at hs
  change (Reader.enter limits >>= fun inner => _) = _
  apply enter_bind
  intro inner hdepth hsize
  -- the length of the text is the fuel of the loop and no less than the number of items
  have hlength := Value.length_le_writeList vs
  rw [items_writeList h (by omega) (by simp only [List.length_append]; omega) (by omega)]
  exact within_bind_ok rfl

end Reads

lemma Reads.parse {α : Type} {reader : Reader α} {v : Value} {a : α}
    (h : Reads (maxDepth + 1) reader v a) :
    reader.parse (String.ofList v.write) =
      if v.depth ≤ maxDepth then .ok a else .error .tooDeep := by
  have hread := h ⟨maxDepth, v.write.length⟩ [] (Nat.lt_succ_self _) (by simp)
  rw [List.append_nil] at hread
  simp only [Reader.parse, String.toList_ofList, hread]
  exact within_bind_ok rfl

inductive Fills {σ : Type} (bound : Nat) (fields : List (Field σ)) :
    σ → List (String × Value) → σ → Prop where
  | nil (s : σ) : Fills bound fields s [] s
  | cons {s t u : σ} {key : String} {v : Value} {ms : List (String × Value)} {field : Field σ}
      (hfield : fields.find? (·.name == key) = some field) (hnew : field.isRead s = false)
      (hread : Reads bound (field.read s) v t) (hrest : Fills bound fields t ms u) :
      Fills bound fields s ((key, v) :: ms) u

namespace Fills

variable {σ α : Type} {bound : Nat} {fields : List (Field σ)} {s t : σ}
  {ms : List (String × Value)}

lemma slot {key : String} {v : Value} {get : σ → Option α} {put : σ → α → σ} {reader : Reader α} {a : α}
    (hfield : fields.find? (·.name == key) = some (.slot key get put reader)) (hnew : get s = none)
    (hv : Reads bound reader v a) (hrest : Fills bound fields (put s a) ms t) :
    Fills bound fields s ((key, v) :: ms) t :=
  .cons hfield (by simp [Field.slot, hnew]) (hv.map (put s)) hrest

lemma members_step {limits : Limits} {fuel n : Nat} {isFirst : Bool} {input rest last : List Char}
    {key : String} {v : Value} {u : σ} {field : Field σ}
    (hnext : Reader.nextKey isFirst input =
      .ok (some (key.toList.flatMap Text.escaped ++ '"' :: ':' :: (v.write ++ rest))))
    (hfield : fields.find? (·.name == key) = some field) (hnew : field.isRead s = false)
    (hv : field.read s limits (v.write ++ rest) = within v.depth limits (t, rest))
    (hms : Record.members fields limits fuel false t rest = within n limits (u, last)) :
    Record.members fields limits (fuel + 1) isFirst s input =
      within (max v.depth n) limits (u, last) := by
  have hcolon : colon (':' :: (v.write ++ rest)) = .ok (v.write ++ rest) := rfl
  rw [Record.members, hnext, bind_ok]
  simp only [Text.read_write, bind_ok, hfield, hnew, hcolon, hv]
  exact within_bind hms

lemma members_writeMembers (h : Fills bound fields s ms t) {limits : Limits}
    (hd : limits.depth < bound) {rest : List Char}
    (hs : (Value.writeMembers ms ++ rest).length ≤ limits.size) {fuel : Nat}
    (hf : ms.length < fuel) :
    Record.members fields limits fuel false s (Value.writeMembers ms ++ rest) =
      within (Value.depthMembers ms) limits (t, '\x7d' :: rest) := by
  induction h generalizing fuel with
  | nil s =>
    obtain ⟨fuel, rfl⟩ := Nat.exists_eq_add_of_lt hf
    exact (within_zero limits _).symm
  | @cons s t u key v ms field hfield hnew hread _ ih =>
    cases fuel with
    | zero => cases hf
    | succ fuel =>
      simp only [Value.writeMembers, Value.depthMembers, List.cons_append, List.append_assoc,
        List.length_cons, List.length_append, Nat.succ_lt_succ_iff] at hs hf ⊢
      refine members_step ?_ hfield hnew
        (hread limits _ hd (by simp only [List.length_append]; omega))
        (ih (by simp only [List.length_append]; omega) hf)
      simp [Reader.nextKey, Text.write, skipBlank, isBlank]

lemma members_writeObject (h : Fills bound fields s ms t) {limits : Limits}
    (hd : limits.depth < bound) {rest : List Char}
    (hs : (Value.writeObject ms ++ rest).length ≤ limits.size) {fuel : Nat}
    (hf : ms.length < fuel) :
    Record.members fields limits fuel true s (Value.writeObject ms ++ rest) =
      within (Value.depthMembers ms) limits (t, '\x7d' :: rest) := by
  cases fuel with
  | zero => cases hf
  | succ fuel =>
    cases h with
    | nil => exact (within_zero limits _).symm
    | @cons _ t _ key v ms field hfield hnew hread hrest =>
      simp only [Value.writeObject, Value.depthMembers, List.append_assoc, List.cons_append,
        List.length_cons, List.length_append, Nat.succ_lt_succ_iff] at hs hf ⊢
      refine members_step ?_ hfield hnew
        (hread limits _ hd (by simp only [List.length_append]; omega))
        (members_writeMembers hrest hd (by simp only [List.length_append]; omega) hf)
      simp [Reader.nextKey, Text.write, skipBlank, isBlank]

lemma reads (record : Record σ α) {a : α} (h : Fills bound record.fields record.start ms s)
    (hfinish : record.finish s .missingField = .ok a) :
    Reads (bound + 1) record.reader (.object ms) a := by
  intro limits rest hd hs
  rw [Value.write_object, List.cons_append] at hs ⊢
  simp only [List.length_cons, List.length_append] at hs
  change (Reader.enter limits >>= fun inner => _) = _
  apply enter_bind
  intro inner hdepth hsize
  have hlength := Value.length_le_writeObject ms
  rw [members_writeObject h (by omega) (by simp only [List.length_append]; omega) (by omega)]
  apply within_bind_ok
  simp only [hfinish, bind_ok]
  rfl

end Fills

namespace Choice

variable {α : Type} {bound : Nat} {choice : Choice α} {name : String} {a : α}

lemma content_of_lookup {content : Content α} (h : choice.lookup name = some content) :
    choice.content name = .ok content := by
  simp [Choice.content, h]

lemma reads_bare (h : choice.lookup name = some (.unit a)) :
    Reads bound choice.reader (.text name) a := by
  intro limits rest _ _
  rw [show (Value.text name).depth = 0 from rfl, within_zero, Value.write_text]
  change (Text.read _ >>= fun _ => _) = _
  simp only [Text.read_write, bind_ok, content_of_lookup h]
  rfl

lemma reads_variant {content : Content α} (h : choice.lookup name = some content) {v : Value}
    (hv : Reads bound (readContent content) v a) :
    Reads (bound + 1) choice.reader (.object [(name, v)]) a := by
  intro limits rest hd hs
  rw [Value.write_object, List.cons_append] at hs ⊢
  simp only [Value.writeObject, Value.writeMembers, Text.write, List.cons_append, List.append_assoc,
    List.nil_append, List.length_cons, List.length_append] at hs ⊢
  change (Reader.enter limits >>= fun inner => _) = _
  rw [show (Value.object [(name, v)]).depth = max v.depth 0 + 1 from rfl, Nat.max_zero]
  apply enter_bind
  intro inner hdepth hsize
  have hcolon : colon (':' :: (v.write ++ '\x7d' :: rest)) = .ok (v.write ++ '\x7d' :: rest) := rfl
  have hread := hv inner ('\x7d' :: rest) (by omega) (by simp; omega)
  change (Text.read _ >>= fun _ => _) = _
  simp only [Text.read_write, bind_ok, content_of_lookup h, hcolon, hread]
  exact within_bind_ok rfl

lemma reads_value {reader : Reader α} (h : choice.lookup name = some (.value reader)) {v : Value}
    (hv : Reads bound reader v a) : Reads (bound + 1) choice.reader (.object [(name, v)]) a :=
  reads_variant h hv

lemma reads_record {reader : Reader α} (h : choice.lookup name = some (.record reader)) {v : Value}
    (hv : Reads bound reader v a) : Reads (bound + 1) choice.reader (.object [(name, v)]) a :=
  reads_variant h hv

end Choice

end ClrCompiler.Json
