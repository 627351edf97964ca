import ClrCompiler.Proofs.Decl.Safety
import Mathlib.Data.List.Find

/-! The entry point pass. Whether a file class needs an entry point, and which `main` it has to call,
can be read off the body of the class. The pass gives every such class its entry point, in the order
of the classes, and changes nothing else; so no class has a part in what happens to another. -/

namespace ClrCompiler.Decl

open Work

namespace Module

def addBetween (m : Module) (owner : ClassRef) (c : Class) (before after : List Member)
    (f : Function) : Module :=
  (m.addFunction f).2.setClass owner
    { c with members := before ++ .function (m.addFunction f).1 :: after }

def KeepsFunctions (m n : Module) : Prop :=
  ∀ ref, m.HasFunction ref → n.function? ref = m.function? ref

def KnownBodies (m : Module) : Prop :=
  ∀ owner c, m.class? owner = some c → ∀ f ∈ c.functions, m.HasFunction f

lemma WellFormed.knownBodies {m : Module} (h : m.WellFormed) : m.KnownBodies :=
  fun _ _ hc => h.classFunctions hc

lemma KeepsFunctions.hasFunction {m n : Module} (h : m.KeepsFunctions n) {ref : FunctionRef}
    (href : m.HasFunction ref) : n.HasFunction ref := by
  rw [← function?_isSome, h ref href, function?_isSome]
  exact href

section

variable {m : Module} {owner : ClassRef} {c : Class} {before after : List Member} {f : Function}

lemma class?_addBetween (h : m.class? owner = some c) :
    (m.addBetween owner c before after f).class? owner =
      some { c with members := before ++ .function ⟨m.functions.size⟩ :: after } := by
  have hlt : owner.index < (m.addFunction f).2.classes.size := (Array.getElem?_eq_some_iff.mp h).1
  rw [class?, addBetween, setClass, Array.getElem?_setIfInBounds, if_pos rfl, if_pos hlt]
  rfl

lemma class?_addBetween_of_ne {other : ClassRef} (h : other ≠ owner) :
    (m.addBetween owner c before after f).class? other = m.class? other := by
  have hne : owner.index ≠ other.index := fun he => h (by cases owner; cases other; simp_all)
  rw [class?, addBetween, setClass, Array.getElem?_setIfInBounds, if_neg hne]
  rfl

lemma function?_addBetween :
    (m.addBetween owner c before after f).function? ⟨m.functions.size⟩ = some f :=
  Array.getElem?_push_size

lemma keepsFunctions_addBetween : m.KeepsFunctions (m.addBetween owner c before after f) := by
  intro ref href
  exact (Array.getElem?_push).trans (if_neg (Nat.ne_of_lt href))

lemma functions_between (before after : List Member) (new : FunctionRef) :
    ({ c with members := before ++ .function new :: after } : Class).functions =
      before.filterMap Member.function? ++ new :: after.filterMap Member.function? := by
  rw [Class.functions, List.filterMap_append]
  rfl

lemma KnownBodies.addBetween (h : m.KnownBodies) (hc : m.class? owner = some c)
    (hbody : c.members = before ++ after) : (m.addBetween owner c before after f).KnownBodies := by
  have hkeeps : m.KeepsFunctions (m.addBetween owner c before after f) := keepsFunctions_addBetween
  intro other d hd g hg
  by_cases hother : other = owner
  · subst hother
    cases (class?_addBetween hc).symm.trans hd
    rw [functions_between, List.mem_append, List.mem_cons] at hg
    have hold (hg : g ∈ c.members.filterMap Member.function?) : m.HasFunction g := h other c hc g hg
    rw [hbody, List.filterMap_append, List.mem_append] at hold
    rcases hg with hg | rfl | hg
    · exact hkeeps.hasFunction (hold (.inl hg))
    · exact hasFunction_of_some function?_addBetween
    · exact hkeeps.hasFunction (hold (.inr hg))
  · rw [class?_addBetween_of_ne hother] at hd
    exact hkeeps.hasFunction (h other d hd g hg)

end

end Module

namespace Lowering

def accepted (m : Module) (accepts : Function → Bool) (ref : FunctionRef) : Bool :=
  (m.function? ref).any accepts

/-- The body of the file class `owner` lists no function that takes the program's arguments, and
`main` is the first plain `main` it lists and does not suspend. -/
def NeedsEntryPoint (m : Module) (owner : ClassRef) (main : FunctionRef) : Prop :=
  ∃ c, m.class? owner = some c ∧ c.isFileClass = true ∧
    (∀ f ∈ c.functions, accepted m isMainWithArgs f = false) ∧
    c.functions.find? (accepted m isPlainMain) = some main ∧
    accepted m Function.isSuspend main = false

structure IsEntryPoint (owner : ClassRef) (main : FunctionRef) (f : Function) : Prop where
  name : f.name = .mainEntry
  parent : f.parent = .inClass owner
  status : f.status = ⟨.pub, .opened, .none⟩
  origin : f.origin = .generatedMain
  params : f.params = [⟨.args, ⟨Standard.array, false, [⟨Standard.string, false, []⟩]⟩, .regular⟩]
  returnType : f.returnType = ⟨Standard.unit, false, []⟩
  typeParameters : f.typeParameters = []
  body : f.body = some (.block [.call main [] []])

lemma isEntryPoint_entryPoint (owner : ClassRef) (main : FunctionRef) :
    IsEntryPoint owner main (entryPoint owner main) := by
  constructor <;> rfl

def entryMain? (m : Module) (c : Class) : Option FunctionRef :=
  if c.functions.any (accepted m isMainWithArgs) then none
  else (c.functions.find? (accepted m isPlainMain)).filter (!accepted m Function.isSuspend ·)

lemma entryMain?_eq_some {m : Module} {c : Class} {main : FunctionRef} :
    entryMain? m c = some main ↔ (∀ f ∈ c.functions, accepted m isMainWithArgs f = false) ∧
      c.functions.find? (accepted m isPlainMain) = some main ∧
      accepted m Function.isSuspend main = false := by
  rw [entryMain?]
  split <;> rename_i hany
  · have hnot : ¬∀ f ∈ c.functions, accepted m isMainWithArgs f = false := by
      obtain ⟨f, hf, haccepted⟩ := List.any_eq_true.mp hany
      exact fun h => Bool.false_ne_true ((h f hf).symm.trans haccepted)
    simp [hnot]
  · have hall : ∀ f ∈ c.functions, accepted m isMainWithArgs f = false := by simpa using hany
    rw [Option.filter_eq_some_iff, Bool.not_eq_true']
    exact ⟨fun h => ⟨hall, h⟩, And.right⟩

section

variable {s : Session} {m : Module} {owner : ClassRef} {c : Class}

lemma entryMain?_congr {n : Module} (hk : m.KeepsFunctions n)
    (hf : ∀ f ∈ c.functions, m.HasFunction f) : entryMain? n c = entryMain? m c := by
  have hsame (accepts : Function → Bool) :
      ∀ f ∈ c.functions, accepted n accepts f = accepted m accepts f := by
    intro f hin
    rw [accepted, hk f (hf f hin), accepted]
  apply Option.ext
  intro main
  rw [entryMain?_eq_some, entryMain?_eq_some]
  have hfind : c.functions.find? (accepted n isPlainMain) =
      c.functions.find? (accepted m isPlainMain) := List.find?_congr (hsame isPlainMain)
  rw [hfind]
  constructor
  · rintro ⟨hargs, hmain, hsuspend⟩
    have hin := List.mem_of_find?_eq_some hmain
    exact ⟨fun f hin => hsame _ f hin ▸ hargs f hin, hmain, hsame _ main hin ▸ hsuspend⟩
  · rintro ⟨hargs, hmain, hsuspend⟩
    have hin := List.mem_of_find?_eq_some hmain
    refine ⟨fun f hin => ?_, hmain, (hsame _ main hin).trans hsuspend⟩
    exact (hsame _ f hin).trans (hargs f hin)

lemma exec_findFunction_eq (accepts : Function → Bool) {refs : List FunctionRef}
    (h : ∀ ref ∈ refs, s.module.HasFunction ref) :
    exec (findFunction accepts refs) s =
      (.ok ((refs.find? (accepted s.module accepts)).bind fun ref =>
        (s.module.function? ref).map (ref, ·)), s) := by
  induction refs with
  | nil => rfl
  | cons ref rest ih =>
    obtain ⟨f, hf⟩ := Option.isSome_iff_exists.mp
      (Module.function?_isSome.mpr (h ref List.mem_cons_self))
    rw [findFunction, exec_bind_ok (exec_functionOf_eq_ok.mpr ⟨hf, rfl⟩)]
    cases ha : accepts f with
    | true => simp [accepted, hf, ha, exec_pure]
    | false =>
      have hrest := ih fun other ho => h other (List.mem_cons_of_mem ref ho)
      simpa [accepted, hf, ha] using hrest

lemma exec_addMember {member : Member} (hc : s.module.class? owner = some c) :
    exec (addMember owner member) s = (.ok (), { s with
      module := s.module.setClass owner { c with members := c.members ++ [member] } }) := by
  rw [addMember, exec_bind_ok (exec_classOf_eq_ok.mpr ⟨hc, rfl⟩)]
  rfl

lemma exec_addEntryPoint (hc : s.module.class? owner = some c)
    (hf : ∀ f ∈ c.functions, s.module.HasFunction f) :
    ∃ log, exec (addEntryPoint owner) s = (.ok (), { s with
      module := (entryMain? s.module c).elim s.module fun main =>
        s.module.addBetween owner c c.members [] (entryPoint owner main)
      suspendMains := log }) := by
  have hargs := exec_findFunction_eq isMainWithArgs hf
  have hplain := exec_findFunction_eq isPlainMain hf
  have hfunction {accepts : Function → Bool} {ref : FunctionRef}
      (h : c.functions.find? (accepted s.module accepts) = some ref) :
      ∃ f, s.module.function? ref = some f :=
    Option.isSome_iff_exists.mp
      (Module.function?_isSome.mpr (hf ref (List.mem_of_find?_eq_some h)))
  rw [addEntryPoint, exec_bind_ok (exec_classOf_eq_ok.mpr ⟨hc, rfl⟩), exec_bind_ok hargs]
  cases hwith : c.functions.find? (accepted s.module isMainWithArgs) with
  | some ref =>
    obtain ⟨f, hfound⟩ := hfunction hwith
    have hany : c.functions.any (accepted s.module isMainWithArgs) = true := by
      exact List.any_eq_true.mpr ⟨ref, List.mem_of_find?_eq_some hwith, List.find?_some hwith⟩
    simp only [entryMain?, hany, if_true, Option.elim_none, Option.bind_some, hfound,
      Option.map_some]
    split
    · exact ⟨_, rfl⟩
    · exact ⟨_, rfl⟩
  | none =>
    have hany : c.functions.any (accepted s.module isMainWithArgs) = false := by
      simpa using hwith
    simp only [entryMain?, hany, Bool.false_eq_true, if_false, Option.bind_none]
    rw [exec_bind_ok hplain]
    cases hmain : c.functions.find? (accepted s.module isPlainMain) with
    | none => exact ⟨_, rfl⟩
    | some main =>
      obtain ⟨f, hfound⟩ := hfunction hmain
      have hsuspend : accepted s.module Function.isSuspend main = f.isSuspend := by
        simp [accepted, hfound]
      simp only [Option.bind_some, hfound, Option.map_some, Option.filter_some, hsuspend]
      cases f.isSuspend with
      | true => exact ⟨_, rfl⟩
      | false =>
        have hadded : (s.module.addFunction (entryPoint owner main)).2.class? owner = some c := hc
        exact ⟨_, exec_addMember (s := { s with module := _ }) hadded⟩

end

/-- `n` is `m` with the entry points that are `wanted`, made in this order. -/
structure Completed (wanted : List (ClassRef × FunctionRef)) (m n : Module) : Prop where
  functions : n.functions = m.functions ++ (wanted.map fun p => entryPoint p.1 p.2).toArray
  body : ∀ k owner main, wanted[k]? = some (owner, main) → ∃ c, m.class? owner = some c ∧
    n.class? owner =
      some { c with members := c.members ++ [.function ⟨m.functions.size + k⟩] }
  otherBody : ∀ owner, owner ∉ wanted.map Prod.fst → n.class? owner = m.class? owner
  rest : { n with classes := m.classes, functions := m.functions } = m

namespace Completed

variable {m n o : Module} {owner : ClassRef} {c : Class} {main : FunctionRef}
  {wanted : List (ClassRef × FunctionRef)}

lemma nil (m : Module) : Completed [] m m where
  functions := by simp
  body k owner main h := by simp at h
  otherBody _ _ := rfl
  rest := rfl

lemma cons (hc : m.class? owner = some c)
    (h : Completed wanted (m.addBetween owner c c.members [] (entryPoint owner main)) n)
    (hnew : owner ∉ wanted.map Prod.fst) : Completed ((owner, main) :: wanted) m n where
  functions := by
    rw [h.functions]
    simp [Module.addBetween, Module.addFunction, Module.setClass]
  body := by
    intro k other otherMain hk
    cases k with
    | zero =>
      cases hk
      refine ⟨c, hc, ?_⟩
      rw [h.otherBody owner hnew, Module.class?_addBetween hc]
      rfl
    | succ k =>
      obtain ⟨d, hd, hbody⟩ := h.body k other otherMain hk
      have hne : other ≠ owner := by
        rintro rfl
        exact hnew (List.mem_map.mpr ⟨_, List.mem_of_getElem? hk, rfl⟩)
      rw [Module.class?_addBetween_of_ne hne] at hd
      refine ⟨d, hd, hbody.trans ?_⟩
      have hposition : (m.functions.push (entryPoint owner main)).size + k =
          m.functions.size + (k + 1) := by
        rw [Array.size_push]
        omega
      exact congrArg (fun i => some { d with members := d.members ++ [Member.function ⟨i⟩] })
        hposition
  otherBody := by
    intro other hother
    obtain ⟨hne, hrest⟩ := not_or.mp (List.mem_cons.not.mp hother)
    rw [h.otherBody other hrest, Module.class?_addBetween_of_ne hne]
  rest := by
    have hrest := h.rest
    cases n
    cases m
    simp_all [Module.addBetween, Module.addFunction, Module.setClass]

end Completed

def wantedBy (m : Module) (owners : List ClassRef) : List (ClassRef × FunctionRef) :=
  owners.filterMap fun owner => ((m.class? owner).bind (entryMain? m)).map (owner, ·)

lemma mem_wantedBy {m : Module} {owners : List ClassRef} {owner : ClassRef} {main : FunctionRef} :
    (owner, main) ∈ wantedBy m owners ↔
      owner ∈ owners ∧ ∃ c, m.class? owner = some c ∧ entryMain? m c = some main := by
  simp [wantedBy, List.mem_filterMap, Option.bind_eq_some_iff]

lemma pairwise_wantedBy {m : Module} {owners : List ClassRef} {R : ClassRef → ClassRef → Prop}
    (h : owners.Pairwise R) : (wantedBy m owners).Pairwise fun a b => R a.1 b.1 := by
  refine List.pairwise_filterMap.mpr (h.imp ?_)
  intro a b hab p hp q hq
  obtain ⟨_, -, rfl⟩ := Option.map_eq_some_iff.mp hp
  obtain ⟨_, -, rfl⟩ := Option.map_eq_some_iff.mp hq
  exact hab

lemma exec_forM_addEntryPoint {m : Module} (hm : m.KnownBodies) {owners : List ClassRef}
    (hnodup : owners.Nodup) (hin : ∀ owner ∈ owners, m.HasClass owner)
    {s : Session} (hk : m.KeepsFunctions s.module)
    (hs : ∀ owner ∈ owners, s.module.class? owner = m.class? owner) :
    ∃ n log, exec (owners.forM addEntryPoint) s =
      (.ok (), { s with module := n, suspendMains := log }) ∧
        Completed (wantedBy m owners) s.module n := by
  -- lowering one class leaves the bodies of the others and all functions as they were, so every
  -- class gets what it needs in the unit the pass began with
  induction owners generalizing s with
  | nil => exact ⟨s.module, s.suspendMains, rfl, .nil _⟩
  | cons owner owners ih =>
    obtain ⟨hnew, hnodup⟩ := List.nodup_cons.mp hnodup
    obtain ⟨hclass, hin⟩ := List.forall_mem_cons.mp hin
    obtain ⟨hsame, hs⟩ := List.forall_mem_cons.mp hs
    obtain ⟨c, hc⟩ := Option.isSome_iff_exists.mp (Module.class?_isSome hclass)
    have hknown : ∀ f ∈ c.functions, s.module.HasFunction f :=
      fun f hf => hk.hasFunction (hm owner c hc f hf)
    obtain ⟨log, hstep⟩ := exec_addEntryPoint (hsame.trans hc) hknown
    rw [entryMain?_congr hk (hm owner c hc)] at hstep
    cases hmain : entryMain? m c with
    | none =>
      rw [hmain] at hstep
      have hwanted : wantedBy m (owner :: owners) = wantedBy m owners :=
        List.filterMap_cons_none (by simp [hc, hmain])
      obtain ⟨n, log', hrun, hdone⟩ := ih hnodup hin (s := { s with suspendMains := log }) hk hs
      rw [hwanted]
      exact ⟨n, log', (exec_bind_ok hstep).trans hrun, hdone⟩
    | some main =>
      rw [hmain] at hstep
      have hwanted : wantedBy m (owner :: owners) = (owner, main) :: wantedBy m owners :=
        List.filterMap_cons_some (by simp [hc, hmain])
      let next := s.module.addBetween owner c c.members [] (entryPoint owner main)
      have hnext : m.KeepsFunctions next := by
        intro f hf
        rw [Module.keepsFunctions_addBetween f (hk.hasFunction hf), hk f hf]
      have hothers : ∀ other ∈ owners, next.class? other = m.class? other := by
        intro other hother
        have hne : other ≠ owner := by
          rintro rfl
          exact hnew hother
        rw [Module.class?_addBetween_of_ne hne, hs other hother]
      obtain ⟨n, log', hrun, hdone⟩ :=
        ih hnodup hin (s := { s with module := next, suspendMains := log }) hnext hothers
      rw [hwanted]
      refine ⟨n, log', (exec_bind_ok hstep).trans hrun, .cons (hsame.trans hc) hdone ?_⟩
      intro hlisted
      obtain ⟨p, hp, rfl⟩ := List.mem_map.mp hlisted
      exact hnew (mem_wantedBy.mp hp).1

section

variable {s : Session} {m : Module} {owner : ClassRef} {c : Class} {main : FunctionRef}

lemma mem_classesWhere {condition : Class → Bool} :
    owner ∈ classesWhere m condition ↔ ∃ c, m.class? owner = some c ∧ condition c = true := by
  rw [classesWhere, List.mem_filter, Option.any_eq_true]
  refine ⟨And.right, fun h => ⟨?_, h⟩⟩
  obtain ⟨c, hc, -⟩ := h
  have hlt : owner.index < m.classes.size := (Array.getElem?_eq_some_iff.mp hc).1
  exact List.mem_map.mpr ⟨owner.index, List.mem_range.mpr hlt, rfl⟩

lemma pairwise_classesWhere (m : Module) (condition : Class → Bool) :
    (classesWhere m condition).Pairwise fun a b => a.index < b.index := by
  have hrefs : m.classRefs.Pairwise fun a b => a.index < b.index :=
    List.pairwise_map.mpr List.pairwise_lt_range
  exact hrefs.filter _

lemma needsEntryPoint_iff : NeedsEntryPoint m owner main ↔
    ∃ c, m.class? owner = some c ∧ c.isFileClass = true ∧ entryMain? m c = some main := by
  simp only [NeedsEntryPoint, entryMain?_eq_some]

lemma needsEntryPoint_iff_of_class (hc : m.class? owner = some c) (hfile : c.isFileClass = true) :
    NeedsEntryPoint m owner main ↔ entryMain? m c = some main := by
  rw [needsEntryPoint_iff]
  constructor
  · rintro ⟨d, hd, -, hmain⟩
    cases hc.symm.trans hd
    exact hmain
  · exact fun hmain => ⟨c, hc, hfile, hmain⟩

lemma mem_wanted : (owner, main) ∈ wantedBy m (classesWhere m Class.isFileClass) ↔
    NeedsEntryPoint m owner main := by
  rw [mem_wantedBy, mem_classesWhere, needsEntryPoint_iff]
  constructor
  · rintro ⟨⟨c, hc, hfile⟩, d, hd, hmain⟩
    cases hc.symm.trans hd
    exact ⟨c, hc, hfile, hmain⟩
  · rintro ⟨c, hc, hfile, hmain⟩
    exact ⟨⟨c, hc, hfile⟩, c, hc, hmain⟩

lemma exec_entryPoints (hm : s.module.KnownBodies) :
    ∃ n log, exec entryPoints s = (.ok (), { s with module := n, suspendMains := log }) ∧
      Completed (wantedBy s.module (classesWhere s.module Class.isFileClass)) s.module n := by
  have hnodup : (classesWhere s.module Class.isFileClass).Nodup := by
    refine (pairwise_classesWhere s.module Class.isFileClass).imp ?_
    rintro a _ hlt rfl
    exact Nat.lt_irrefl _ hlt
  exact exec_forM_addEntryPoint hm hnodup (fun _ => hasClass_of_mem_classesWhere)
    (fun _ _ => rfl) fun _ _ => rfl

lemma Completed.entry {n : Module} {wanted : List (ClassRef × FunctionRef)}
    (h : Completed wanted m n) {k : Nat} (hk : wanted[k]? = some (owner, main)) :
    n.function? ⟨m.functions.size + k⟩ = some (entryPoint owner main) := by
  rw [Module.function?, h.functions, Array.getElem?_append_right (Nat.le_add_right _ _)]
  simp [hk]

lemma Completed.keepsFunctions {n : Module} {wanted : List (ClassRef × FunctionRef)}
    (h : Completed wanted m n) : m.KeepsFunctions n := by
  intro ref href
  rw [Module.function?, h.functions, Array.getElem?_append_left href]
  rfl

theorem entryPoints_added (hm : s.module.WellFormed) :
    ∃ (t : Session) (wanted : List (ClassRef × FunctionRef)), exec entryPoints s = (.ok (), t) ∧
      (∀ owner main, (owner, main) ∈ wanted ↔ NeedsEntryPoint s.module owner main) ∧
      (wanted.Pairwise fun a b => a.1.index < b.1.index) ∧
      t.module.functions.size = s.module.functions.size + wanted.length ∧
      (∀ k owner main, wanted[k]? = some (owner, main) →
        let new : FunctionRef := ⟨s.module.functions.size + k⟩
        (∃ c, s.module.class? owner = some c ∧
          t.module.class? owner = some { c with members := c.members ++ [.function new] }) ∧
        ∃ f, t.module.function? new = some f ∧ IsEntryPoint owner main f) ∧
      (∀ ref, s.module.HasFunction ref → t.module.function? ref = s.module.function? ref) ∧
      (∀ owner, (∀ main, ¬NeedsEntryPoint s.module owner main) →
        t.module.class? owner = s.module.class? owner) ∧
      { t with
        module := { t.module with classes := s.module.classes, functions := s.module.functions }
        suspendMains := s.suspendMains } = s := by
  obtain ⟨n, log, hrun, hdone⟩ := exec_entryPoints hm.knownBodies
  refine ⟨_, _, hrun, fun _ _ => mem_wanted, pairwise_wantedBy (pairwise_classesWhere _ _), ?_, ?_,
    hdone.keepsFunctions, ?_, ?_⟩
  · simp [hdone.functions]
  · intro k owner main hk
    exact ⟨hdone.body k owner main hk, _, hdone.entry hk, isEntryPoint_entryPoint owner main⟩
  · intro owner hnone
    refine hdone.otherBody owner fun hlisted => ?_
    obtain ⟨⟨_, main⟩, hp, rfl⟩ := List.mem_map.mp hlisted
    exact hnone main (mem_wanted.mp hp)
  · rw [hdone.rest]

end

/-- Four file classes: with a plain `main`, with one beside a `main` that takes the program's
arguments, with one that suspends, and again with a plain `main`. -/
def scripts : Session :=
  let file (functions : List FunctionRef) : Class :=
    { Class.make Standard.any .plain (.inPackage .root) with
      status := Status.publicFinal.withFlags (.of [.fileClass])
      members := functions.map .function }
  let main (owner : ClassRef) : Function := .make .mainFunction (.inClass owner) .unit
  let unit : Module := { Module.empty .any with
    topLevel := [⟨0⟩, ⟨1⟩, ⟨2⟩, ⟨3⟩]
    classes := #[file [⟨0⟩], file [⟨1⟩, ⟨2⟩], file [⟨3⟩], file [⟨4⟩]]
    functions := #[main ⟨0⟩, main ⟨1⟩, { main ⟨1⟩ with params := [⟨.args, stringArray, .regular⟩] },
      { main ⟨2⟩ with status := Status.publicFinal.withFlags (.of [.suspend]) }, main ⟨3⟩] }
  ⟨.new, unit, .empty, .standard, []⟩

lemma scripts_wellFormed : scripts.module.WellFormed := by
  constructor
  case functions =>
    intro f hf
    simp only [scripts, List.mem_toArray, List.mem_cons, List.not_mem_nil, or_false] at hf
    rcases hf with rfl | rfl | rfl | rfl | rfl
    all_goals
      constructor <;> simp [Function.make, Module.HasParent, Module.HasClass, scripts]
  all_goals
    simp [scripts, Module.empty, Class.make, Module.HasClass, Module.HasFunction, Module.HasParent,
      Module.HasMember]

theorem entryPoints_added_scripts :
    scripts.module.WellFormed ∧ ∃ t new f, exec entryPoints scripts = (.ok (), t) ∧
      (t.module.class? ⟨3⟩).map Class.members = some [.function ⟨4⟩, .function new] ∧
      t.module.function? new = some f ∧ IsEntryPoint ⟨3⟩ ⟨4⟩ f ∧
      t.module.class? ⟨1⟩ = scripts.module.class? ⟨1⟩ ∧
      t.module.class? ⟨2⟩ = scripts.module.class? ⟨2⟩ := by
  have hneeds : NeedsEntryPoint scripts.module ⟨3⟩ ⟨4⟩ :=
    needsEntryPoint_iff.mpr ⟨_, rfl, rfl, rfl⟩
  have hnone {owner : ClassRef} {c : Class} (hc : scripts.module.class? owner = some c)
      (hmain : entryMain? scripts.module c = none) :
      ∀ main, ¬NeedsEntryPoint scripts.module owner main := by
    intro main h
    obtain ⟨d, hd, -, hsome⟩ := needsEntryPoint_iff.mp h
    cases hc.symm.trans hd
    cases hmain.symm.trans hsome
  obtain ⟨t, wanted, hrun, hwanted, -, -, hadded, -, hothers, -⟩ :=
    entryPoints_added scripts_wellFormed
  obtain ⟨k, hk⟩ := List.mem_iff_getElem?.mp ((hwanted ⟨3⟩ ⟨4⟩).mpr hneeds)
  obtain ⟨⟨c, hc, hbody⟩, f, hf, hentry⟩ := hadded k ⟨3⟩ ⟨4⟩ hk
  refine ⟨scripts_wellFormed, t, _, f, hrun, ?_, hf, hentry, hothers ⟨1⟩ (hnone rfl rfl),
    hothers ⟨2⟩ (hnone rfl rfl)⟩
  cases hc
  rw [hbody]
  rfl

section

variable {s : Session} {m : Module} {owner : ClassRef} {c : Class} {main : FunctionRef}

def Generates (s : Session) (owner : ClassRef) (main : FunctionRef) : Prop :=
  ∃ t c new f, exec entryPoints s = (.ok (), t) ∧ s.module.class? owner = some c ∧
    t.module.class? owner = some { c with members := c.members ++ [.function new] } ∧
    t.module.function? new = some f ∧ IsEntryPoint owner main f

lemma generates_iff (hm : s.module.KnownBodies) :
    Generates s owner main ↔ NeedsEntryPoint s.module owner main := by
  obtain ⟨n, log, hrun, hdone⟩ := exec_entryPoints hm
  constructor
  · rintro ⟨t, c, new, f, ht, hc, hbody, hf, hentry⟩
    cases hrun.symm.trans ht
    have hlisted : owner ∈ (wantedBy s.module (classesWhere s.module Class.isFileClass)).map
        Prod.fst := by
      by_contra hother
      have hsame := hbody.symm.trans ((hdone.otherBody owner hother).trans hc)
      have hmembers := congrArg Class.members (Option.some.inj hsame)
      simp at hmembers
    obtain ⟨⟨other, called⟩, hp, hother⟩ := List.mem_map.mp hlisted
    cases hother
    obtain ⟨k, hk⟩ := List.mem_iff_getElem?.mp hp
    obtain ⟨d, hd, hbody'⟩ := hdone.body k other called hk
    cases hc.symm.trans hd
    have hnew : new = ⟨s.module.functions.size + k⟩ := by
      simpa using hbody.symm.trans hbody'
    have hsame : f = entryPoint other called := by
      rw [hnew] at hf
      exact Option.some.inj (hf.symm.trans (hdone.entry hk))
    have hmain : called = main := by
      have hcalls := hentry.body
      rw [hsame] at hcalls
      simpa [entryPoint] using hcalls
    exact hmain ▸ mem_wanted.mp hp
  · intro hneeds
    obtain ⟨k, hk⟩ := List.mem_iff_getElem?.mp (mem_wanted.mpr hneeds)
    obtain ⟨c, hc, hbody⟩ := hdone.body k owner main hk
    exact ⟨_, c, _, _, hrun, hc, hbody, hdone.entry hk, isEntryPoint_entryPoint owner main⟩

lemma entryMain?_insert {d : Class} {fs gs : List FunctionRef} {new : FunctionRef}
    (hc : c.functions = fs ++ gs) (hd : d.functions = fs ++ new :: gs)
    (hplain : accepted m isPlainMain new = false) :
    entryMain? m d = some main ↔
      entryMain? m c = some main ∧ accepted m isMainWithArgs new = false := by
  rw [entryMain?_eq_some, entryMain?_eq_some, hc, hd]
  have hfind : (fs ++ new :: gs).find? (accepted m isPlainMain) =
      (fs ++ gs).find? (accepted m isPlainMain) := by
    simp [List.find?_append, hplain]
  have hargs : (∀ f ∈ fs ++ new :: gs, accepted m isMainWithArgs f = false) ↔
      (∀ f ∈ fs ++ gs, accepted m isMainWithArgs f = false) ∧
        accepted m isMainWithArgs new = false := by
    simp only [List.forall_mem_append, List.forall_mem_cons]
    tauto
  rw [hfind, hargs]
  tauto

theorem generates_added_iff (hm : s.module.WellFormed) (hc : s.module.class? owner = some c)
    (hfile : c.isFileClass = true) {before after : List Member}
    (hbody : c.members = before ++ after) {g : Function}
    (hg : g.extensionReceiver.isSome ∨ g.typeParameters ≠ []) (main : FunctionRef) :
    Generates { s with module := s.module.addBetween owner c before after g } owner main ↔
      Generates s owner main ∧ isMainWithArgs g = false := by
  let n := s.module.addBetween owner c before after g
  let d : Class := { c with members := before ++ .function ⟨s.module.functions.size⟩ :: after }
  have hd : n.class? owner = some d := Module.class?_addBetween hc
  have hnew (accepts : Function → Bool) :
      accepted n accepts ⟨s.module.functions.size⟩ = accepts g := by
    rw [accepted, Module.function?_addBetween, Option.any_some]
  have hplain : isPlainMain g = false := by
    rcases hg with hg | hg
    · simp [isPlainMain, Option.isSome_iff_ne_none.mp hg]
    · simp [isPlainMain, hg]
  have hold : c.functions =
      before.filterMap Member.function? ++ after.filterMap Member.function? := by
    rw [Class.functions, hbody, List.filterMap_append]
  have hkeeps : s.module.KeepsFunctions n := Module.keepsFunctions_addBetween
  rw [generates_iff hm.knownBodies, generates_iff (hm.knownBodies.addBetween hc hbody),
    needsEntryPoint_iff_of_class hc hfile, needsEntryPoint_iff_of_class hd hfile,
    entryMain?_insert hold (Module.functions_between _ _ _) ((hnew _).trans hplain), hnew,
    entryMain?_congr hkeeps (hm.classFunctions hc)]

end

def otherMain (typeParameters : List Name) (params : List Param) : Function :=
  { Function.make .mainFunction (.inClass ⟨0⟩) .unit with
    typeParameters := typeParameters
    params := params }

theorem generates_added_iff_scripts :
    let g := otherMain [] [⟨.other, .nonNull Standard.string, .extension⟩]
    ∃ c, scripts.module.class? ⟨0⟩ = some c ∧ c.isFileClass = true ∧ c.members = [] ++ c.members ∧
      g.extensionReceiver.isSome ∧ isMainWithArgs g = false ∧
      Generates { scripts with module := scripts.module.addBetween ⟨0⟩ c [] c.members g }
        ⟨0⟩ ⟨0⟩ := by
  intro g
  have hneeds : NeedsEntryPoint scripts.module ⟨0⟩ ⟨0⟩ :=
    needsEntryPoint_iff.mpr ⟨_, rfl, rfl, rfl⟩
  have hgenerates := (generates_iff scripts_wellFormed.knownBodies).mpr hneeds
  refine ⟨_, rfl, rfl, rfl, rfl, rfl, ?_⟩
  exact (generates_added_iff scripts_wellFormed rfl rfl rfl (.inl rfl) ⟨0⟩).mpr ⟨hgenerates, rfl⟩

theorem generates_suppressed :
    ∃ c, scripts.module.class? ⟨0⟩ = some c ∧ c.isFileClass = true ∧ Generates scripts ⟨0⟩ ⟨0⟩ ∧
      ∀ g ∈ [otherMain [] [⟨.other, .nonNull Standard.string, .extension⟩,
          ⟨.args, stringArray, .regular⟩], otherMain [.any] [⟨.args, stringArray, .regular⟩]],
        (g.extensionReceiver.isSome ∨ g.typeParameters ≠ []) ∧ ∀ main,
          ¬Generates { scripts with module := scripts.module.addBetween ⟨0⟩ c c.members [] g }
            ⟨0⟩ main := by
  have hbodies := scripts_wellFormed.knownBodies
  have hneeds : NeedsEntryPoint scripts.module ⟨0⟩ ⟨0⟩ :=
    needsEntryPoint_iff.mpr ⟨_, rfl, rfl, rfl⟩
  have hnever {g : Function} {c : Class} (hc : scripts.module.class? ⟨0⟩ = some c)
      (hg : isMainWithArgs g = true) (main : FunctionRef) :
      ¬Generates { scripts with module := scripts.module.addBetween ⟨0⟩ c c.members [] g }
        ⟨0⟩ main := by
    rw [generates_iff (hbodies.addBetween hc (List.append_nil _).symm)]
    rintro ⟨d, hd, -, hargs, -⟩
    cases (Module.class?_addBetween hc).symm.trans hd
    have hlisted := hargs ⟨scripts.module.functions.size⟩ (by simp [Module.functions_between])
    rw [accepted, Module.function?_addBetween, Option.any_some, hg] at hlisted
    cases hlisted
  refine ⟨_, rfl, rfl, (generates_iff hbodies).mpr hneeds, ?_⟩
  refine List.forall_mem_cons.mpr ⟨⟨.inl rfl, hnever rfl rfl⟩, List.forall_mem_singleton.mpr ?_⟩
  exact ⟨.inr (by simp [otherMain]), hnever rfl rfl⟩

end Lowering

end ClrCompiler.Decl
