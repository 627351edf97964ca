import ClrCompiler.Proofs.Lookup
import ClrCompiler.Proofs.Nesting

/-! A table of texts after any calls. It holds the known texts and then the texts it was handed, each
where it came first, and a map kept beside it leads from every stored text to its place and from no
other text anywhere. -/

namespace ClrCompiler

open Interner Naming

def Name.constants : List Name :=
  [empty, kotlin, kotlinCollections, kotlinClr, kotlinInternal, system, systemConsole, any, unit,
   nothing, string, boolean, char, byte, short, int, long, float, double, uByte, uShort, uInt, uLong,
   number, charSequence, comparable, enum, throwable, annotationType, array, byteArray, charArray,
   shortArray, intArray, longArray, floatArray, doubleArray, booleanArray, iterable, mutableIterable,
   collection, mutableCollection, list, mutableList, set, mutableSet, map, mutableMap, iterator,
   mutableIterator, listIterator, mutableListIterator, clrStatic, actualizeByBuiltins, init, equals,
   hashCode, toStringMember, plus, other, mainFunction, mainEntry, args, companion, defaultImpls,
   instanceField, interfaceCompanionInstance]

namespace ClassId

lemma StoredIn.forall_mem {i : Interner} {id : ClassId} (h : id.StoredIn i) :
    ∀ n ∈ [id.relative, id.short], n.raw < i.size :=
  List.forall_mem_cons.mpr ⟨h.relative, List.forall_mem_singleton.mpr h.short⟩

lemma storedIn_outer {i j : Interner} {id around : ClassId}
    (h : id.outer.run i = (some around, j)) : around.StoredIn j := by
  cases hnested : id.isNested with
  | false =>
    rw [run_outer_of_not_isNested hnested] at h
    cases h
  | true =>
    rw [run_outer_of_isNested hnested] at h
    split at h
    · cases h
    · cases h
      exact storedIn_withPath _ _ _

end ClassId

namespace Interner

section

variable {i : Interner} {text : String} {n : Name}

lemma isSome_get? : (i.get? text).isSome ↔ text ∈ i.texts := by
  rw [get?, Option.isSome_map]
  exact List.isSome_idxOf?

lemma get?_eq_some_iff (hi : i.texts.Nodup) : i.get? text = some n ↔ i.lookup? n = some text := by
  refine ⟨lookup?_of_get?, fun h => ?_⟩
  have hn : n.raw < i.size := (List.getElem?_eq_some_iff.mp h).1
  have htext : i.text n = text := by rw [Interner.text, h, Option.getD_some]
  rw [← htext, get?_text hi hn]

lemma texts_intern_eq (i : Interner) (text : String) :
    (i.intern text).2.texts = i.texts ++ if text ∈ i.texts then [] else [text] := by
  rcases texts_intern i text with he | ⟨hfresh, he⟩
  · have hstored : text ∈ i.texts := he ▸ mem_texts_intern.mpr (.inr rfl)
    rw [he, if_pos hstored, List.append_nil]
  · rw [he, if_neg hfresh]

lemma intern?_eq_ok (h : i.size < UInt32.size) (text : String) :
    i.intern? text = .ok (i.intern text) := by
  have hroom : ¬ maxRaw < i.size := by
    rw [maxRaw]
    omega
  rw [intern?, if_neg fun hfull => hroom hfull.2]

def internAll (i : Interner) (texts : List String) : Interner :=
  texts.foldl (fun i text => (i.intern text).2) i

lemma internAll_append (i : Interner) (texts more : List String) :
    i.internAll (texts ++ more) = (i.internAll texts).internAll more :=
  List.foldl_append

lemma later_internAll (i : Interner) (texts : List String) : Later i (i.internAll texts) := by
  induction texts generalizing i with
  | nil => exact .refl
  | cons text texts ih => exact (later_intern i text).trans (ih _)

lemma texts_internAll (i : Interner) (texts : List String) :
    (i.internAll texts).texts = i.texts ++ (texts.filter (· ∉ i.texts)).eraseDups := by
  -- from the end: what a text adds depends on all texts before it
  induction texts using List.reverseRecOn with
  | nil => simp [internAll]
  | append_singleton texts text ih =>
    have hstored : text ∈ (i.internAll texts).texts ↔ text ∈ i.texts ∨ text ∈ texts := by
      rw [ih, List.mem_append, List.mem_eraseDups, List.mem_filter]
      by_cases ht : text ∈ i.texts <;> simp [ht]
    rw [internAll_append, eraseDups_filter_concat, ← List.append_assoc, ← ih]
    have hlast : ((i.internAll texts).internAll [text]).texts = _ := texts_intern_eq _ text
    rw [hlast]
    congr 1
    by_cases ht : text ∈ i.texts <;> by_cases hm : text ∈ texts <;> simp [hstored, ht, hm]

end

inductive Call where
  | intern (text : String)
  | get (text : String)
  | lookup (name : Name)
  | parse (text : String)
  | ofSegments (segments : List String)
  | nested (id : ClassId) (name : Name)
  | outer (id : ClassId)

inductive Answer where
  | name (name : Name)
  | found (name : Option Name)
  | text (text : String)
  | package (package : Package)
  | nested (id : ClassId)
  | outer (id : Option ClassId)
  deriving DecidableEq

def Answer.names : Answer → List Name
  | .name n => [n]
  | .found n => n.toList
  | .text _ => []
  | .package p => [p.name]
  | .nested id => [id.relative, id.short]
  | .outer id => id.toList.flatMap fun around => [around.relative, around.short]

namespace Call

def answer : Call → Naming Answer
  | .intern text => return .name (← Naming.intern text)
  | .get text => return .found ((← MonadState.get).get? text)
  | .lookup n => return .text (← Naming.text n)
  | .parse text => return .package (← Package.parse text)
  | .ofSegments segments => return .package (← Package.ofSegments segments)
  | .nested id n => return .nested (← id.nested n)
  | .outer id => return .outer (← id.outer)

def reads : Call → List Name
  | .lookup n => [n]
  | .nested id n => [id.relative, n]
  | .outer id => if id.isNested then [id.relative] else []
  | _ => []

def Readable (i : Interner) (c : Call) : Prop := ∀ n ∈ c.reads, n.raw < i.size

instance (i : Interner) (c : Call) : Decidable (c.Readable i) :=
  inferInstanceAs (Decidable (∀ n ∈ c.reads, n.raw < i.size))

/-- A call that needs a name of another table fails and leaves the table as it is. -/
def run (i : Interner) (c : Call) : Option Answer × Interner :=
  if c.Readable i then (some (c.answer.eval i), (c.answer.run i).2) else (none, i)

def aroundTexts (i : Interner) (id : ClassId) : List String :=
  match if id.isNested then Text.beforeLastDot? (i.text id.relative) else none with
  | none => []
  | some path => [path, Text.afterLastDot path]

def texts (i : Interner) (c : Call) : List String :=
  if c.Readable i then
    match c with
    | .intern text => [text]
    | .get _ => []
    | .lookup _ => []
    | .parse text => [text]
    | .ofSegments segments => [String.intercalate "." segments]
    | .nested id n => [i.text id.relative ++ "." ++ i.text n]
    | .outer id => aroundTexts i id
  else []

section

variable {i : Interner} {c : Call}

lemma table_outer (id : ClassId) (i : Interner) :
    (id.outer.run i).2 = i.internAll (aroundTexts i id) := by
  cases hnested : id.isNested with
  | false =>
    rw [ClassId.run_outer_of_not_isNested hnested, aroundTexts, hnested]
    rfl
  | true =>
    rw [ClassId.run_outer_of_isNested hnested, aroundTexts, if_pos hnested]
    cases Text.beforeLastDot? (i.text id.relative) <;> rfl

lemma table_run (i : Interner) (c : Call) : (c.run i).2 = i.internAll (c.texts i) := by
  by_cases hc : c.Readable i
  · simp only [run, texts, if_pos hc]
    cases c with
    | outer id => exact table_outer id i
    | _ => rfl
  · simp only [run, texts, if_neg hc]
    rfl

lemma run_intern (i : Interner) (text : String) :
    (Call.intern text).run i = (some (.name (i.intern text).1), (i.intern text).2) :=
  if_pos (by simp [Readable, reads])

lemma run_get (i : Interner) (text : String) :
    (Call.get text).run i = (some (.found (i.get? text)), i) :=
  if_pos (by simp [Readable, reads])

lemma names_stored {a : Answer} (h : (c.run i).1 = some a) :
    ∀ n ∈ a.names, n.raw < (c.run i).2.size := by
  by_cases hc : c.Readable i
  · rw [run, if_pos hc] at h ⊢
    obtain rfl : c.answer.eval i = a := Option.some.inj h
    cases c with
    | intern text => exact List.forall_mem_singleton.mpr (lt_of_get? (get?_intern i text))
    | get text =>
      intro n hn
      exact lt_of_get? (Option.mem_toList.mp hn)
    | lookup m => exact fun n hn => absurd hn List.not_mem_nil
    | parse text => exact List.forall_mem_singleton.mpr (lt_of_get? (get?_intern i text))
    | ofSegments segments => exact List.forall_mem_singleton.mpr (lt_of_get? (get?_intern i _))
    | nested id m =>
      have hm : m.raw < i.size := hc m (by simp [reads])
      have hstored : ((id.nested m).eval i).StoredIn ((id.nested m).run i).2 :=
        ClassId.storedIn_nested hm
      exact hstored.forall_mem
    | outer id =>
      intro n hn
      obtain ⟨around, hsome, hn⟩ := List.mem_flatMap.mp hn
      have hout : id.outer.eval i = some around := Option.mem_toList.mp hsome
      have hstored : around.StoredIn (id.outer.run i).2 :=
        ClassId.storedIn_outer (Prod.ext hout rfl)
      exact hstored.forall_mem n hn
  · rw [run, if_neg hc] at h
    cases h

end

end Call

def ofCalls (calls : List Call) : Interner := calls.foldl (fun i c => (c.run i).2) .new

def handed (i : Interner) : List Call → List String
  | [] => []
  | c :: calls => c.texts i ++ handed (c.run i).2 calls

lemma foldl_run (i : Interner) (calls : List Call) :
    calls.foldl (fun i c => (c.run i).2) i = i.internAll (handed i calls) := by
  induction calls generalizing i with
  | nil => rfl
  | cons c calls ih => rw [List.foldl_cons, ih, handed, internAll_append, ← c.table_run]

lemma ofCalls_eq (calls : List Call) : ofCalls calls = new.internAll (handed new calls) :=
  foldl_run new calls

lemma later_ofCalls_append (before after : List Call) :
    Later (ofCalls before) (ofCalls (before ++ after)) := by
  have hrest : ofCalls (before ++ after) =
      (ofCalls before).internAll (handed (ofCalls before) after) := by
    rw [← foldl_run]
    exact List.foldl_append
  rw [hrest]
  exact later_internAll _ _

lemma ofCalls_concat (calls : List Call) (c : Call) :
    ofCalls (calls ++ [c]) = (c.run (ofCalls calls)).2 := by
  rw [ofCalls, List.foldl_append]
  rfl

lemma reachable_ofCalls (calls : List Call) : (ofCalls calls).Reachable :=
  later_ofCalls_append [] calls

/-- A table with a map from its texts to their numbers, which answers without a search. The newest
entry of a text counts. -/
structure Indexed where
  texts : List String
  numbers : List (String × Name)

namespace Indexed

def push (t : Indexed) (text : String) : Indexed :=
  ⟨t.texts ++ [text], (text, ⟨t.texts.length⟩) :: t.numbers⟩

def ofTexts (texts : List String) : Indexed := texts.foldl push ⟨[], []⟩

def get? (t : Indexed) (text : String) : Option Name := t.numbers.lookup text

def intern (t : Indexed) (text : String) : Name × Indexed :=
  match t.get? text with
  | some n => (n, t)
  | none => (⟨t.texts.length⟩, t.push text)

def internAll (t : Indexed) (texts : List String) : Indexed :=
  texts.foldl (fun t text => (t.intern text).2) t

structure Mirrors (t : Indexed) (i : Interner) : Prop where
  texts : t.texts = i.texts
  get? : ∀ text, t.get? text = i.get? text

section

variable {t : Indexed} {i : Interner}

lemma Mirrors.push (h : t.Mirrors i) {text : String} (hfresh : text ∉ i.texts) :
    (t.push text).Mirrors ⟨i.texts ++ [text]⟩ where
  texts := by rw [Indexed.push, h.texts]
  get? other := by
    have hlookup : (t.push text).get? other =
        if other = text then some ⟨i.texts.length⟩ else i.get? other := by
      rw [← h.get? other, ← h.texts]
      by_cases ho : other = text
      · simp [Indexed.get?, Indexed.push, ho]
      · simp [Indexed.get?, Indexed.push, List.lookup_cons, beq_false_of_ne ho, ho]
    rw [hlookup]
    have hnone : i.texts.findIdx? (· == text) = none := by
      simpa [List.idxOf?] using List.idxOf?_eq_none_iff.mpr hfresh
    by_cases ho : other = text
    · subst ho
      simp [Interner.get?, List.idxOf?, List.findIdx?_append, hnone]
    · simp [Interner.get?, List.idxOf?, List.findIdx?_append, ho, Ne.symm ho]

lemma mirrors_ofTexts {texts : List String} (h : texts.Nodup) : (ofTexts texts).Mirrors ⟨texts⟩ := by
  induction texts using List.reverseRecOn with
  | nil => exact ⟨rfl, fun _ => rfl⟩
  | append_singleton texts text ih =>
    obtain ⟨htexts, -, hfresh⟩ := List.nodup_append.mp h
    have hstep : ofTexts (texts ++ [text]) = (ofTexts texts).push text := by simp [ofTexts]
    rw [hstep]
    exact (ih htexts).push fun hmem => hfresh text hmem text (List.mem_singleton_self _) rfl

lemma Mirrors.intern (h : t.Mirrors i) (text : String) :
    (t.intern text).1 = (i.intern text).1 ∧ (t.intern text).2.Mirrors (i.intern text).2 := by
  cases hg : i.get? text with
  | some n =>
    rw [Indexed.intern, h.get?, hg, intern_of_get? hg]
    exact ⟨rfl, h⟩
  | none =>
    have hfresh : text ∉ i.texts := by
      rw [← isSome_get?, hg]
      exact Bool.false_ne_true
    rw [Indexed.intern, Interner.intern, h.get?, hg, h.texts]
    exact ⟨rfl, h.push hfresh⟩

lemma Mirrors.internAll (h : t.Mirrors i) (texts : List String) :
    (t.internAll texts).Mirrors (i.internAll texts) := by
  induction texts generalizing t i with
  | nil => exact h
  | cons text texts ih => exact ih (h.intern text).2

end

end Indexed

lemma texts_ofCalls (calls : List Call) :
    (ofCalls calls).texts =
      Name.knownTexts ++ ((handed new calls).filter (· ∉ Name.knownTexts)).eraseDups := by
  rw [ofCalls_eq]
  exact texts_internAll new _

lemma mem_texts_ofCalls {calls : List Call} {text : String} :
    text ∈ (ofCalls calls).texts ↔ text ∈ Name.knownTexts ∨ text ∈ handed new calls := by
  rw [texts_ofCalls, List.mem_append, List.mem_eraseDups, List.mem_filter]
  by_cases ht : text ∈ Name.knownTexts <;> simp [ht]

lemma Reachable.lookup?_constants {i : Interner} (hi : i.Reachable) :
    Name.constants.map i.lookup? = Name.knownTexts.map some := by
  have hnew : Name.constants.map Interner.new.lookup? = Name.knownTexts.map some := by
    decide +kernel
  rw [← hnew]
  refine List.map_congr_left fun n hn => Later.lookup? hi ?_
  have hall : ∀ n ∈ Name.constants, n.raw < Interner.new.size := by decide
  exact hall n hn

lemma intern_eq_intern_iff {i j : Interner} {text other : String}
    (h : Later (i.intern text).2 j) : (i.intern text).1 = (j.intern other).1 ↔ text = other := by
  rw [eq_comm, intern_eq_iff_of_get? (h.get? (get?_intern i text)), eq_comm]

lemma size_ofCalls_concat (calls : List Call) (c : Call) :
    (ofCalls (calls ++ [c])).size = (ofCalls calls).size +
      ((c.texts (ofCalls calls)).filter (· ∉ (ofCalls calls).texts)).eraseDups.length := by
  rw [ofCalls_concat, c.table_run, size, texts_internAll, List.length_append]
  rfl

lemma exists_lookup?_of_names {before : List Call} {c : Call} {a : Answer}
    (h : (c.run (ofCalls before)).1 = some a) (after : List Call) {n : Name} (hn : n ∈ a.names) :
    ∃ text, (ofCalls (before ++ [c])).lookup? n = some text ∧
      (ofCalls (before ++ c :: after)).lookup? n = some text := by
  have hstored : n.raw < (ofCalls (before ++ [c])).size := by
    rw [ofCalls_concat]
    exact Call.names_stored h n hn
  have hlater : Later (ofCalls (before ++ [c])) (ofCalls (before ++ c :: after)) := by
    rw [List.append_cons before c after]
    exact later_ofCalls_append _ after
  have htext := List.getElem?_eq_getElem hstored
  exact ⟨_, htext, (hlater.lookup? hstored).trans htext⟩

theorem ofCalls_consistent (calls : List Call) (hsize : (ofCalls calls).size < UInt32.size) :
    let i := ofCalls calls
    let given := handed new calls
    let t := (Indexed.ofTexts Name.knownTexts).internAll given
    (i.texts.Nodup ∧
      i.texts = Name.knownTexts ++ (given.filter (· ∉ Name.knownTexts)).eraseDups) ∧
    (t.texts = i.texts ∧
      ∀ text n, t.numbers.lookup text = some n ↔ i.texts[n.raw]? = some text) ∧
    (i.texts.take 67 = Name.knownTexts ∧ Name.constants.map Name.raw = List.range 67 ∧
      Name.constants.map i.lookup? = Name.knownTexts.map some) ∧
    (∀ j, Later j i → ∀ text, j.intern? text = .ok (j.intern text)) ∧
    (∀ text, (t.intern text).1 = (i.intern text).1 ∧
      (i.intern text).2.lookup? (i.intern text).1 = some text ∧
      (i.intern text).2.size = i.size + if text ∈ i.texts then 0 else 1) ∧
    (∀ text, (Call.get text).run i = (some (.found (t.get? text)), i) ∧
      ((t.get? text).isSome ↔ text ∈ Name.knownTexts ∨ text ∈ given)) ∧
    (∀ before text between other after,
      calls = before ++ .intern text :: between ++ .intern other :: after →
      (((Call.intern text).run (ofCalls before)).1 =
        ((Call.intern other).run (ofCalls (before ++ .intern text :: between))).1 ↔ text = other)) ∧
    ∀ before c after, calls = before ++ c :: after →
      (ofCalls (before ++ [c])).size = (ofCalls before).size +
        ((c.texts (ofCalls before)).filter (· ∉ (ofCalls before).texts)).eraseDups.length ∧
      ∀ a, (c.run (ofCalls before)).1 = some a → ∀ n ∈ a.names, ∃ text,
        (ofCalls (before ++ [c])).lookup? n = some text ∧ i.lookup? n = some text := by
  intro i given t
  have hi : i.Reachable := reachable_ofCalls calls
  have htexts : i.texts = _ := texts_ofCalls calls
  have hmirrors : t.Mirrors i := by
    have hnew := Indexed.mirrors_ofTexts knownTexts_nodup
    have hgiven := hnew.internAll given
    rwa [show (⟨Name.knownTexts⟩ : Interner).internAll given = i from (ofCalls_eq calls).symm]
      at hgiven
  refine ⟨⟨hi.nodup, htexts⟩, ⟨hmirrors.texts, fun text n => ?_⟩, ⟨?_, by decide +kernel,
    hi.lookup?_constants⟩, fun j hj => ?_, fun text => ⟨(hmirrors.intern text).1, ?_, ?_⟩,
    fun text => ⟨?_, ?_⟩, ?_, ?_⟩
  · exact (Eq.congr_left (hmirrors.get? text)).trans (get?_eq_some_iff hi.nodup)
  · rw [htexts]
    exact List.take_left' rfl
  · exact intern?_eq_ok (Nat.lt_of_le_of_lt hj.size_le hsize)
  · exact lookup?_of_get? (get?_intern i text)
  · rw [size, texts_intern_eq, List.length_append]
    split <;> rfl
  · rw [Call.run_get, hmirrors.get?]
  · rw [hmirrors.get?, isSome_get?]
    exact mem_texts_ofCalls
  · rintro before text between other after -
    have hstep : ofCalls (before ++ [.intern text]) = ((ofCalls before).intern text).2 := by
      rw [ofCalls_concat, Call.run_intern]
    rw [Call.run_intern, Call.run_intern, Option.some_inj, Answer.name.injEq]
    apply intern_eq_intern_iff
    rw [← hstep, List.append_cons before _ between]
    exact later_ofCalls_append _ between
  · rintro before c after rfl
    exact ⟨size_ofCalls_concat before c, fun a ha n hn => exists_lookup?_of_names ha after hn⟩

def nestingCalls : List Call :=
  let box : ClassId := .topLevel ⟨⟨68⟩⟩ ⟨67⟩
  let companion : ClassId := ⟨⟨⟨68⟩⟩, ⟨69⟩, .companion⟩
  [.intern "Box", .ofSegments ["demo", "core"], .get "Crate", .nested box .companion,
   .nested companion .empty, .lookup ⟨900⟩, .outer ⟨⟨⟨68⟩⟩, ⟨70⟩, .empty⟩, .outer companion,
   .parse "Any", .intern "Crate", .intern "Box"]

theorem ofCalls_consistent_nestingCalls :
    let i := ofCalls nestingCalls
    let t := (Indexed.ofTexts Name.knownTexts).internAll (handed new nestingCalls)
    i.size < UInt32.size ∧
      i.texts = Name.knownTexts ++ ["Box", "demo.core", "Box.Companion", "Box.Companion.", "Crate"] ∧
      t.numbers.lookup "Box.Companion" = some ⟨69⟩ ∧ t.numbers.lookup "demo" = none ∧
      i.lookup? ⟨69⟩ = some "Box.Companion" := by
  intro i t
  have hsize : i.size < UInt32.size := by decide +kernel
  obtain ⟨⟨-, htexts⟩, ⟨-, hmap⟩, -, -, -, hget, -, hsteps⟩ :=
    ofCalls_consistent nestingCalls hsize
  have hnew : ((handed new nestingCalls).filter (· ∉ Name.knownTexts)).eraseDups =
      ["Box", "demo.core", "Box.Companion", "Box.Companion.", "Crate"] := by decide +kernel
  have hcompanion : i.lookup? ⟨69⟩ = some "Box.Companion" := by
    obtain ⟨text, hthen, hnow⟩ := (hsteps (nestingCalls.take 3) _ (nestingCalls.drop 4) rfl).2
      (.nested ⟨⟨⟨68⟩⟩, ⟨69⟩, .companion⟩) (by decide +kernel) ⟨69⟩ (by decide)
    rw [hnow, ← hthen]
    decide +kernel
  refine ⟨hsize, htexts.trans (congrArg _ hnew), (hmap _ _).mpr hcompanion, ?_, hcompanion⟩
  rw [← Option.not_isSome_iff_eq_none]
  exact mt (hget "demo").2.mp (by decide +kernel)

end Interner

end ClrCompiler
