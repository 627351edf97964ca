import ClrCompiler.Metadata
import ClrCompiler.Proofs.Naming

/-! Identities are stable under later interning, and nested identities never meet top-level ones. -/

namespace ClrCompiler

open Interner Naming

lemma Interner.intern_eq_iff_of_get? {i : Interner} {a b : String} {n : Name}
    (ha : i.get? a = some n) : (i.intern b).1 = n ↔ b = a := by
  constructor
  · intro hb
    cases hg : i.get? b with
    | none =>
      have hlt := lt_of_get? ha
      simp only [Interner.intern, hg] at hb
      simp [← hb] at hlt
    | some m =>
      rw [intern_of_get? hg] at hb
      subst hb
      exact (text_of_get? hg).symm.trans (text_of_get? ha)
  · rintro rfl
    rw [intern_of_get? ha]

lemma Package.replays_parse (s : Interner) (text : String) : Replays s (Package.parse text) :=
  (replays_intern s text).andThen fun _ => replays_pure s _

namespace ClassId

lemma topLevel_isNested (package : Package) (name : Name) :
    (topLevel package name).isNested = false := by
  simp [topLevel, isNested]

lemma eq_topLevel_of_not_isNested {id : ClassId} (h : id.isNested = false) :
    id = topLevel id.package id.short := by
  have he : id.relative = id.short := by simpa [isNested] using h
  cases id
  simp_all [topLevel]

def nestedPath (i : Interner) (id : ClassId) (name : Name) : String :=
  i.text id.relative ++ "." ++ i.text name

lemma run_nested (id : ClassId) (name : Name) (i : Interner) :
    (id.nested name).run i =
      (⟨id.package, (i.intern (nestedPath i id name)).1, name⟩,
        (i.intern (nestedPath i id name)).2) := rfl

lemma eval_nested (id : ClassId) (name : Name) (i : Interner) :
    (id.nested name).eval i = ⟨id.package, (i.intern (nestedPath i id name)).1, name⟩ := rfl

lemma replays_nested {s : Interner} {id : ClassId} {name : Name} (hid : id.relative.raw < s.size)
    (hname : name.raw < s.size) : Replays s (id.nested name) := by
  intro t ht
  have hpath {u : Interner} (hu : Later s u) : nestedPath u id name = nestedPath s id name := by
    simp only [nestedPath, hu.text hid, hu.text hname]
  refine ⟨later_intern t _, fun u hu => ?_⟩
  rw [run_nested] at hu
  have htu : Later t u := (later_intern t _).trans hu
  rw [run_nested, eval_nested, hpath (ht.trans htu), hpath ht]
  rw [hpath ht] at hu
  rw [intern_of_get? (hu.get? (get?_intern t _))]

lemma isNested_nested {i : Interner} (hi : i.texts.Nodup) (id : ClassId) {name : Name}
    (hname : name.raw < i.size) : ((id.nested name).eval i).isNested = true := by
  rw [eval_nested]
  simp only [isNested, bne_iff_ne]
  intro he
  have hpath : nestedPath i id name = i.text name :=
    (intern_eq_iff_of_get? (get?_text hi hname)).mp he
  have hlen := congrArg String.length hpath
  simp only [nestedPath, String.length_append] at hlen
  have hdot : ".".length = 1 := rfl
  omega

lemma topLevel_ne_nested {i : Interner} (hi : i.texts.Nodup) (package : Package) (n : Name)
    (id : ClassId) {name : Name} (hname : name.raw < i.size) :
    topLevel package n ≠ (id.nested name).eval i := by
  intro he
  have h := isNested_nested hi id hname
  rw [← he, topLevel_isNested] at h
  exact Bool.false_ne_true h

lemma nested_injective {i : Interner} (hi : i.texts.Nodup) {p q : Package} {m n name : Name}
    (hm : m.raw < i.size) (hn : n.raw < i.size)
    (hstored : (i.get? (nestedPath i (topLevel q n) name)).isSome)
    (he : ((topLevel p m).nested name).eval i = ((topLevel q n).nested name).eval i) :
    topLevel p m = topLevel q n := by
  obtain ⟨k, hk⟩ := Option.isSome_iff_exists.mp hstored
  rw [eval_nested, eval_nested, intern_of_get? hk] at he
  injection he with hpackage hrelative
  have hpath := (intern_eq_iff_of_get? hk).mp hrelative
  have htext : i.text m = i.text n := by
    simpa only [nestedPath, topLevel, String.append_left_inj, String.append_right_inj] using hpath
  have hpq : p = q := hpackage
  rw [text_injective hi hm hn htext, hpq]

end ClassId

namespace CallableId

lemma topLevel_beq (p q : Package) (m n : Name) :
    (topLevel p m == topLevel q n) = (p == q && m == n) := by
  rw [Bool.eq_iff_iff]
  simp [topLevel]

lemma member_beq (owner : ClassId) (m n : Name) : (member owner m == member owner n) = (m == n) := by
  rw [Bool.eq_iff_iff]
  simp [member]

end CallableId

namespace Metadata.TypeNode

lemma replays_classId (s : Interner) (node : TypeNode) : Replays s node.classId :=
  (Package.replays_parse s _).andThen fun _ =>
    (replays_intern s _).andThen fun _ => replays_pure s _

lemma classId_lt (i : Interner) (node : TypeNode) :
    (node.classId.eval i).relative.raw < (node.classId.run i).2.size :=
  lt_of_get? (get?_intern _ node.name)

end Metadata.TypeNode

end ClrCompiler
