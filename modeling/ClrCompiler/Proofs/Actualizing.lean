import ClrCompiler.Provider
import ClrCompiler.Proofs.Lookup
import ClrCompiler.Proofs.Nesting

/-! The search for the mark that hands a class over to the built-in symbols. It always ends, it
looks at the class and at the classes around it, and the texts it stores change no answer, since
every answer depends on an identity through its texts only. -/

namespace ClrCompiler

open Interner Naming

namespace ClassId

structure ReadAlike (j : Interner) (a : ClassId) (k : Interner) (b : ClassId) : Prop where
  package : a.package = b.package
  left : a.StoredIn j
  right : b.StoredIn k
  relative : j.text a.relative = k.text b.relative
  short : j.text a.short = k.text b.short

section

variable {i j k : Interner} {a b : ClassId}

lemma ReadAlike.symm (h : ReadAlike j a k b) : ReadAlike k b j a :=
  ⟨h.package.symm, h.right, h.left, h.relative.symm, h.short.symm⟩

lemma ReadAlike.later {l m : Interner} (h : ReadAlike j a k b) (hj : Later j l) (hk : Later k m) :
    ReadAlike l a m b where
  package := h.package
  left := h.left.later hj
  right := h.right.later hk
  relative := by rw [hj.text h.left.relative, hk.text h.right.relative, h.relative]
  short := by rw [hj.text h.left.short, hk.text h.right.short, h.short]

lemma StoredIn.readAlike {id : ClassId} (h : id.StoredIn i) (hl : Later i j) :
    ReadAlike i id j id :=
  ReadAlike.later ⟨rfl, h, h, rfl, rfl⟩ .refl hl

lemma ReadAlike.eq (h : ReadAlike j a k b) (hi : i.texts.Nodup) (hj : Later i j) (hk : Later i k)
    (ha : a.StoredIn i) : a = b := by
  have hname {m n : Name} (hm : m.raw < i.size) (hn : n.raw < k.size) (he : j.text m = k.text n) :
      m = n := by
    rw [hj.text hm, ← hk.text hm] at he
    exact text_injective (hk.nodup hi) (Nat.lt_of_lt_of_le hm hk.size_le) hn he
  have hpackage := h.package
  have hrelative := hname ha.relative h.right.relative h.relative
  have hshort := hname ha.short h.right.short h.short
  cases a
  cases b
  simp_all

lemma isNested_iff (hi : i.texts.Nodup) {id : ClassId} (hid : id.StoredIn i) :
    id.isNested = true ↔ i.text id.relative ≠ i.text id.short := by
  simp only [isNested, bne_iff_ne, ne_eq]
  exact not_congr ⟨fun he => by rw [he], text_injective hi hid.relative hid.short⟩

lemma ReadAlike.isNested_eq (h : ReadAlike j a k b) (hj : j.texts.Nodup) (hk : k.texts.Nodup) :
    a.isNested = b.isNested := by
  rw [Bool.eq_iff_iff, isNested_iff hj h.left, isNested_iff hk h.right, h.relative, h.short]

lemma readAlike_withPath (j k : Interner) {package other : Package} (h : package = other)
    (path : String) :
    ReadAlike ((withPath package path).run j).2 ((withPath package path).eval j)
      ((withPath other path).run k).2 ((withPath other path).eval k) where
  package := h
  left := storedIn_withPath package path j
  right := storedIn_withPath other path k
  relative := by rw [text_withPath, text_withPath]
  short := by rw [text_short_withPath, text_short_withPath]

lemma ReadAlike.outer (h : ReadAlike j a k b) (hj : j.texts.Nodup) (hk : k.texts.Nodup) :
    (a.outer.eval j = none ∧ b.outer.eval k = none) ∨
      ∃ c d, a.outer.eval j = some c ∧ b.outer.eval k = some d ∧
        ReadAlike (a.outer.run j).2 c (b.outer.run k).2 d := by
  have hnested := h.isNested_eq hj hk
  cases ha : a.isNested with
  | false =>
    left
    have hb : b.isNested = false := hnested ▸ ha
    simp only [eval, run_outer_of_not_isNested ha, run_outer_of_not_isNested hb, and_self]
  | true =>
    simp only [eval, run_outer_of_isNested ha, run_outer_of_isNested (hnested ▸ ha), ← h.relative]
    cases Text.beforeLastDot? (j.text a.relative) with
    | none => exact Or.inl ⟨rfl, rfl⟩
    | some path => exact Or.inr ⟨_, _, rfl, rfl, readAlike_withPath j k h.package path⟩

end

end ClassId

open ClassId

/-- From `i` on, a question about a class only stores texts, and its answer depends on the identity
through its texts only. -/
structure Steady {α : Type} (i : Interner) (question : ClassId → Naming α) : Prop where
  later : ∀ id j, Later j ((question id).run j).2
  alike : ∀ {j k a b}, Later i j → Later i k → ReadAlike j a k b →
    (question a).eval j = (question b).eval k

section

variable {α β : Type} {i : Interner} {question : ClassId → Naming α} {next : α → ClassId → Naming β}

lemma steady_pure (i : Interner) (answer : α) :
    Steady i fun _ => (pure answer : Naming α) :=
  ⟨fun _ _ => .refl, fun _ _ _ => rfl⟩

lemma Steady.bind (h : Steady i question) (hnext : ∀ answer, Steady i (next answer)) :
    Steady i fun id => question id >>= fun answer => next answer id where
  later id j := (h.later id j).trans ((hnext _).later id _)
  alike {j k a b} hj hk hab := by
    have hja := h.later a j
    have hkb := h.later b k
    change (next ((question a).eval j) a).eval _ = (next ((question b).eval k) b).eval _
    rw [h.alike hj hk hab]
    exact (hnext _).alike (hj.trans hja) (hk.trans hkb) (hab.later hja hkb)

lemma steady_path (i : Interner) : Steady i fun id => Naming.text id.relative :=
  ⟨fun _ _ => .refl, fun _ _ hab => hab.relative⟩

lemma Steady.around (hi : i.texts.Nodup) (h : Steady i question) (answer : α) :
    Steady i fun id => do
      match ← id.outer with
      | some around => question around
      | none => return answer where
  later id j := by
    rw [run_bind]
    refine (later_outer id j).trans ?_
    cases id.outer.eval j with
    | none => exact .refl
    | some around => exact h.later around _
  alike {j k a b} hj hk hab := by
    rw [eval, eval, run_bind, run_bind]
    rcases hab.outer (hj.nodup hi) (hk.nodup hi) with ⟨ha, hb⟩ | ⟨c, d, hc, hd, hcd⟩
    · rw [ha, hb]
      rfl
    · rw [hc, hd]
      exact h.alike (hj.trans (later_outer a j)) (hk.trans (later_outer b k)) hcd

end

def Registry.StoredIn (i : Interner) (r : Registry) : Prop :=
  ∀ id, (r.classifier id).isSome → id.StoredIn i

lemma Registry.storedIn_of_classes {i : Interner} {r : Registry}
    (h : ∀ entry ∈ r.classes, entry.1.StoredIn i) : r.StoredIn i := by
  intro id hid
  obtain ⟨c, hc⟩ := Option.isSome_iff_exists.mp hid
  exact h (id, c) (mem_of_lookup hc)

lemma Registry.StoredIn.steady {i : Interner} {r : Registry} (h : r.StoredIn i)
    (hi : i.texts.Nodup) : Steady i fun id => (pure (r.classifier id) : Naming _) where
  later _ _ := .refl
  alike {j k a b} hj hk hab := by
    change r.classifier a = r.classifier b
    cases ha : r.classifier a with
    | some c => rw [← hab.eq hi hj hk (h a (by simp [ha])), ha]
    | none =>
      cases hb : r.classifier b with
      | none => rfl
      | some c =>
        have he := hab.symm.eq hi hk hj (h b (by simp [hb]))
        rw [he, ha] at hb
        cases hb

namespace Provider

def carriesMark (found : Option Symbol.Class) : Bool :=
  found.any (·.isAnnotated Standard.actualizeByBuiltins)

/-- The search step by step: it ends at a class that carries the mark, or at the outermost one. -/
inductive Searches (lookup : ClassId → Naming (Option Symbol.Class)) :
    ClassId → Interner → Bool → Interner → Prop
  | marked {id : ClassId} {i : Interner} (mark : carriesMark ((lookup id).eval i) = true) :
      Searches lookup id i true ((lookup id).run i).2
  | outermost {id : ClassId} {i j : Interner} (mark : carriesMark ((lookup id).eval i) = false)
      (out : id.outer.run ((lookup id).run i).2 = (none, j)) : Searches lookup id i false j
  | outwards {id around : ClassId} {i j k : Interner} {answer : Bool}
      (mark : carriesMark ((lookup id).eval i) = false)
      (out : id.outer.run ((lookup id).run i).2 = (some around, j))
      (rest : Searches lookup around j answer k) : Searches lookup id i answer k

section

variable {lookup : ClassId → Naming (Option Symbol.Class)} {id : ClassId} {i j : Interner}

lemma Searches.unique {answer other : Bool} {k : Interner} (h : Searches lookup id i answer j)
    (h' : Searches lookup id i other k) : answer = other ∧ j = k := by
  induction h generalizing other k with
  | marked mark =>
    cases h' with
    | marked => exact ⟨rfl, rfl⟩
    | outermost mark' => cases mark.symm.trans mark'
    | outwards mark' => cases mark.symm.trans mark'
  | outermost mark out =>
    cases h' with
    | marked mark' => cases mark.symm.trans mark'
    | outermost _ out' =>
      cases out.symm.trans out'
      exact ⟨rfl, rfl⟩
    | outwards _ out' => cases out.symm.trans out'
  | outwards mark out _ ih =>
    cases h' with
    | marked mark' => cases mark.symm.trans mark'
    | outermost _ out' => cases out.symm.trans out'
    | outwards _ out' rest' =>
      cases out.symm.trans out'
      exact ih rest'

lemma run_markedWithin_of_mark {steps : Nat} (h : carriesMark ((lookup id).eval i) = true) :
    (markedWithin lookup (steps + 1) id).run i = (true, ((lookup id).run i).2) := by
  rw [markedWithin, run_bind]
  exact congrArg (StateT.run · _) (if_pos h)

lemma run_markedWithin_of_not_mark {steps : Nat} (h : carriesMark ((lookup id).eval i) = false) :
    (markedWithin lookup (steps + 1) id).run i =
      match (id.outer.run ((lookup id).run i).2) with
      | (some around, k) => (markedWithin lookup steps around).run k
      | (none, k) => (false, k) := by
  rw [markedWithin, run_bind]
  refine (congrArg (StateT.run · _) (if_neg (by simpa [carriesMark] using h))).trans ?_
  rw [run_bind, eval]
  rcases id.outer.run ((lookup id).run i).2 with ⟨_ | around, k⟩ <;> rfl

lemma searches_markedWithin (hlater : ∀ id j, Later j ((lookup id).run j).2) {steps : Nat}
    (hpath : ((lookup id).run i).2.text id.relative = i.text id.relative)
    (hsteps : (i.text id.relative).length < steps) :
    Searches lookup id i ((markedWithin lookup steps id).eval i)
      ((markedWithin lookup steps id).run i).2 := by
  induction steps generalizing id i with
  | zero => omega
  | succ steps ih =>
    cases hmark : carriesMark ((lookup id).eval i) with
    | true =>
      rw [eval, run_markedWithin_of_mark hmark]
      exact .marked hmark
    | false =>
      rw [eval, run_markedWithin_of_not_mark hmark]
      rcases hout : id.outer.run ((lookup id).run i).2 with ⟨_ | around, k⟩
      · exact .outermost hmark hout
      · obtain ⟨hstored, hshorter⟩ := ClassId.outer_shortens hout
        rw [hpath] at hshorter
        exact .outwards hmark hout (ih ((hlater around k).text hstored) (by omega))

lemma run_isMarked (lookup : ClassId → Naming (Option Symbol.Class)) (id : ClassId) (i : Interner) :
    (isMarked lookup id).run i =
      if ((lookup id).eval i).isSome then
        (markedWithin lookup ((((lookup id).run i).2.text id.relative).length + 1) id).run
          ((lookup id).run i).2
      else (false, ((lookup id).run i).2) := by
  rw [isMarked, run_bind]
  cases ((lookup id).eval i).isSome <;> rfl

end

mutual

def StoredIn (i : Interner) : Provider → Prop
  | .registry r => r.StoredIn i
  | .builtins => True
  | .library l => l.registry.StoredIn i
  | .chain members => AllStoredIn i members
  | .actualizing sources => AllStoredIn i sources

def AllStoredIn (i : Interner) : List Provider → Prop
  | [] => True
  | p :: rest => p.StoredIn i ∧ AllStoredIn i rest

end

section

variable {i : Interner}

lemma allStoredIn_iff {providers : List Provider} :
    AllStoredIn i providers ↔ ∀ p ∈ providers, p.StoredIn i := by
  induction providers with
  | nil => simp [AllStoredIn]
  | cons p rest ih => simp [AllStoredIn, ih]

lemma storedIn_builtins (hi : i.Reachable) : Builtins.registry.StoredIn i := by
  have hknown : ∀ entry ∈ Builtins.registry.classes, entry.1.StoredIn .new := by decide +kernel
  exact Registry.storedIn_of_classes fun entry hentry => (hknown entry hentry).later hi

variable {lookup : ClassId → Naming (Option Symbol.Class)}

lemma steady_markedWithin (hi : i.texts.Nodup) (h : Steady i lookup) (steps : Nat) :
    Steady i (markedWithin lookup steps) := by
  induction steps with
  | zero => exact steady_pure i false
  | succ steps ih =>
    refine h.bind fun found => ?_
    cases found.any (·.isAnnotated Standard.actualizeByBuiltins) with
    | true => exact steady_pure i true
    | false => exact ih.around hi false

lemma steady_isMarked (hi : i.texts.Nodup) (h : Steady i lookup) : Steady i (isMarked lookup) := by
  refine h.bind fun found => ?_
  cases found.isSome with
  | true => exact (steady_path i).bind fun path => steady_markedWithin hi h (path.length + 1)
  | false => exact steady_pure i false

mutual

lemma steady_classifier (hi : i.Reachable) : ∀ p : Provider, p.StoredIn i → Steady i p.classifier
  | .registry _, h => Registry.StoredIn.steady h hi.nodup
  | .builtins, _ => (storedIn_builtins hi).steady hi.nodup
  | .library _, h => Registry.StoredIn.steady h hi.nodup
  | .chain members, h => steady_firstClassifier hi members h
  | .actualizing sources, h => by
    refine (steady_markedInAny hi sources h).bind fun marked => ?_
    cases marked with
    | true => exact (storedIn_builtins hi).steady hi.nodup
    | false => exact steady_pure i none

lemma steady_firstClassifier (hi : i.Reachable) :
    ∀ members, AllStoredIn i members → Steady i (firstClassifier members)
  | [], _ => steady_pure i none
  | p :: rest, h => by
    refine (steady_classifier hi p h.1).bind fun found => ?_
    cases found with
    | some c => exact steady_pure i (some c)
    | none => exact steady_firstClassifier hi rest h.2

lemma steady_markedInAny (hi : i.Reachable) :
    ∀ sources, AllStoredIn i sources → Steady i (markedInAny sources)
  | [], _ => steady_pure i false
  | p :: rest, h => by
    refine (steady_isMarked hi.nodup (steady_classifier hi p h.1)).bind fun marked => ?_
    cases marked with
    | true => exact steady_pure i true
    | false => exact steady_markedInAny hi rest h.2

end

end

section

variable {i : Interner} {id : ClassId} {around : List ClassId}

/-- A question that stores nothing about classes built from names without dots. -/
def Quiet {α : Type} (i : Interner) (question : ClassId → Naming α) : Prop :=
  ∀ id around, Nesting i id around → Settled i (question id)

lemma Quiet.bind {α β : Type} {question : ClassId → Naming α} {next : α → ClassId → Naming β}
    (h : Quiet i question) (hnext : ∀ answer, Quiet i (next answer)) :
    Quiet i fun id => question id >>= fun answer => next answer id := by
  intro id around hid
  rw [Settled, run_bind, h id around hid]
  exact hnext _ id around hid

lemma quiet_pure {α : Type} (i : Interner) (answer : ClassId → α) :
    Quiet i fun id => (pure (answer id) : Naming α) :=
  fun _ _ _ => rfl

variable {lookup : ClassId → Naming (Option Symbol.Class)}

lemma run_markedWithin_of_nesting (hi : i.texts.Nodup) (h : Quiet i lookup) {steps : Nat}
    (hid : Nesting i id around) (hsteps : around.length < steps) :
    (markedWithin lookup steps id).run i =
      ((id :: around).any fun c => carriesMark ((lookup c).eval i), i) := by
  induction steps generalizing id around with
  | zero => omega
  | succ steps ih =>
    have hquiet : ((lookup id).run i).2 = i := h id around hid
    cases hmark : carriesMark ((lookup id).eval i) with
    | true => rw [run_markedWithin_of_mark hmark, hquiet, List.any_cons, hmark, Bool.true_or]
    | false =>
      rw [run_markedWithin_of_not_mark hmark, hquiet, hid.run_outer hi, List.any_cons, hmark,
        Bool.false_or]
      cases around with
      | nil => rfl
      | cons next around => exact ih hid.tail (by simpa using hsteps)

lemma run_isMarked_of_nesting (hi : i.texts.Nodup) (h : Quiet i lookup)
    (hid : Nesting i id around) :
    (isMarked lookup id).run i =
      (((lookup id).eval i).isSome &&
        (id :: around).any fun c => carriesMark ((lookup c).eval i), i) := by
  rw [run_isMarked, h id around hid]
  have hsteps := hid.length_le
  cases ((lookup id).eval i).isSome with
  | false => rfl
  | true => exact run_markedWithin_of_nesting hi h hid (by omega)

lemma quiet_isMarked (hi : i.texts.Nodup) (h : Quiet i lookup) : Quiet i (isMarked lookup) := by
  intro id around hid
  rw [Settled, run_isMarked_of_nesting hi h hid]

mutual

lemma quiet_classifier (hi : i.texts.Nodup) : ∀ p : Provider, Quiet i p.classifier
  | .registry r => quiet_pure i r.classifier
  | .builtins => quiet_pure i Builtins.registry.classifier
  | .library l => quiet_pure i l.registry.classifier
  | .chain members => quiet_firstClassifier hi members
  | .actualizing sources => by
    refine (quiet_markedInAny hi sources).bind fun marked => ?_
    cases marked with
    | true => exact quiet_pure i Builtins.registry.classifier
    | false => exact quiet_pure i fun _ => none

lemma quiet_firstClassifier (hi : i.texts.Nodup) : ∀ members, Quiet i (firstClassifier members)
  | [] => quiet_pure i fun _ => none
  | p :: rest => by
    refine (quiet_classifier hi p).bind fun found => ?_
    cases found with
    | some c => exact quiet_pure i fun _ => some c
    | none => exact quiet_firstClassifier hi rest

lemma quiet_markedInAny (hi : i.texts.Nodup) : ∀ sources, Quiet i (markedInAny sources)
  | [] => quiet_pure i fun _ => false
  | p :: rest => by
    refine (quiet_isMarked hi (quiet_classifier hi p)).bind fun marked => ?_
    cases marked with
    | true => exact quiet_pure i fun _ => true
    | false => exact quiet_markedInAny hi rest

end

lemma eval_markedInAny (hi : i.Reachable) (hid : id.StoredIn i) {sources : List Provider}
    (h : AllStoredIn i sources) {j : Interner} (hj : Later i j) :
    (markedInAny sources id).eval j =
      sources.any fun s => (isMarked s.classifier id).eval i := by
  induction sources generalizing j with
  | nil => rfl
  | cons p rest ih =>
    have hp := steady_isMarked hi.nodup (steady_classifier hi p h.1)
    have hsame := hp.alike .refl hj (hid.readAlike hj)
    rw [List.any_cons, hsame]
    change ((if (isMarked p.classifier id).eval j then pure true else markedInAny rest id) :
      Naming Bool).eval _ = _
    cases (isMarked p.classifier id).eval j with
    | true => rfl
    | false => exact ih h.2 (hj.trans (hp.later id j))

lemma eval_classifier_actualizing (sources : List Provider) (id : ClassId) (i : Interner) :
    ((actualizing sources).classifier id).eval i =
      if (markedInAny sources id).eval i then Builtins.registry.classifier id else none := by
  change ((if (markedInAny sources id).eval i then pure (Builtins.registry.classifier id)
    else pure none) : Naming (Option Symbol.Class)).eval _ = _
  -- the built-in symbol is named here, otherwise comparing both sides would look it up
  generalize Builtins.registry.classifier id = found
  cases (markedInAny sources id).eval i <;> rfl

end

theorem marks_found_exactly :
    (∀ (r : Registry) (id : ClassId) (i : Interner), ∃ answer j,
      Searches (registry r).classifier id i answer j ∧
      (∀ other k, Searches (registry r).classifier id i other k → other = answer ∧ k = j) ∧
      (isMarked (registry r).classifier id).run i =
        if r.contains id then (answer, j) else (false, i)) ∧
    ∀ i : Interner, i.Reachable →
      (∀ (source : Provider) id around, Nesting i id around →
        ((isMarked source.classifier id).eval i = true ↔
          ((source.classifier id).eval i).isSome ∧
            ∃ c ∈ id :: around, carriesMark ((source.classifier c).eval i))) ∧
      ∀ sources id, (∀ s ∈ sources, StoredIn i s) → id.StoredIn i →
        let asked := (actualizing sources).classifier id
        ((asked.eval i).isSome ↔ (Builtins.registry.classifier id).isSome ∧
          ∃ s ∈ sources, (isMarked s.classifier id).eval i) ∧
        (∀ c, asked.eval i = some c → Builtins.registry.classifier id = some c) ∧
        Later i (asked.run i).2 ∧
        ∀ (p : Provider) other, p.StoredIn i → other.StoredIn i →
          (p.classifier other).eval (asked.run i).2 = (p.classifier other).eval i := by
  refine ⟨fun r id i => ?_, fun i hi => ⟨fun source id around hid => ?_,
    fun sources id hsources hid => ?_⟩⟩
  · have hsearch : Searches (registry r).classifier id i _ _ :=
      searches_markedWithin (fun _ _ => .refl) rfl (Nat.lt_succ_self _)
    refine ⟨_, _, hsearch, fun other k h => h.unique hsearch, ?_⟩
    exact run_isMarked _ id i
  · rw [eval, run_isMarked_of_nesting hi.nodup (quiet_classifier hi.nodup source) hid,
      Bool.and_eq_true, List.any_eq_true]
  · have hstored := allStoredIn_iff.mpr hsources
    have hasked := steady_classifier hi (actualizing sources) hstored
    have heval := eval_classifier_actualizing sources id i
    rw [eval_markedInAny hi hid hstored .refl] at heval
    refine ⟨?_, fun c hc => ?_, hasked.later id i, fun p other hp hother => ?_⟩
    · rw [heval, ← List.any_eq_true]
      cases sources.any fun s => (isMarked s.classifier id).eval i <;> simp
    · rw [heval] at hc
      split at hc
      · exact hc
      · cases hc
    · exact ((steady_classifier hi p hp).alike .refl (hasked.later id i)
        (hother.readAlike (hasked.later id i))).symm

def mapCompanion : ClassId := (Standard.map.nested .companion).eval .new

def mapNames : Interner := (Standard.map.nested .companion).run .new |>.2

def markingSource : Registry :=
  let marked (id : ClassId) : Symbol.Class :=
    { Symbol.Class.make id .plain .publicFinal .source with
      annotations := [Standard.actualizeByBuiltins] }
  Registry.empty.apply [marked Standard.string, marked Standard.map,
    .make mapCompanion .object .publicFinal .source] ⟨.kotlin, [], []⟩

theorem marks_found_exactly_mapCompanion :
    (isMarked (registry markingSource).classifier mapCompanion).eval mapNames = true ∧
    let provider := actualizing [registry .empty, registry markingSource]
    ((provider.classifier Standard.string).eval mapNames).isSome ∧
    ¬ ((provider.classifier Standard.int).eval mapNames).isSome ∧
    ¬ ((provider.classifier mapCompanion).eval mapNames).isSome := by
  have hmap : Nesting .new Standard.map [] := .topLevel .kotlinCollections (by decide) (by decide)
  have hcompanion : Nesting mapNames mapCompanion [Standard.map] :=
    hmap.nested (by decide) (by decide)
  have hnames : mapNames.Reachable := later_nested _ _ _
  have hsource : markingSource.StoredIn mapNames :=
    Registry.storedIn_of_classes (by decide +kernel)
  have hempty : Registry.empty.StoredIn mapNames := Registry.storedIn_of_classes (by decide)
  obtain ⟨-, h⟩ := marks_found_exactly
  obtain ⟨hmarked, hasked⟩ := h mapNames hnames
  have hsources : ∀ s ∈ [registry .empty, registry markingSource], s.StoredIn mapNames := by
    simp [StoredIn, hempty, hsource]
  refine ⟨(hmarked _ _ _ hcompanion).mpr ?_,
    (hasked _ Standard.string hsources (by decide +kernel)).1.mpr ?_,
    fun hsome => ?_, fun hsome => ?_⟩
  · exact ⟨by decide +kernel, Standard.map, by decide, by decide +kernel⟩
  · exact ⟨by decide +kernel, registry markingSource, by simp, by decide +kernel⟩
  · obtain ⟨-, s, hs, hm⟩ := (hasked _ Standard.int hsources (by decide +kernel)).1.mp hsome
    simp only [List.mem_cons, List.not_mem_nil, or_false] at hs
    rcases hs with rfl | rfl
    · exact absurd hm (by decide +kernel)
    · exact absurd hm (by decide +kernel)
  · have hbuiltIn := ((hasked _ mapCompanion hsources (by decide +kernel)).1.mp hsome).1
    exact absurd hbuiltIn (by decide +kernel)

end Provider

end ClrCompiler
