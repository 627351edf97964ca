import ClrCompiler.TypeRef
import ClrCompiler.Proofs.Nesting
import ClrCompiler.Proofs.Library.Listing

/-! The texts of types and callables are unambiguous as long as the names they are built from hold no
character that divides such a text. -/

namespace ClrCompiler

open Interner Naming

structure Name.FreeOf (barred : List Char) (i : Interner) (n : Name) : Prop where
  stored : n.raw < i.size
  free : ∀ c ∈ barred, c ∉ (i.text n).toList

instance (barred : List Char) (i : Interner) (n : Name) : Decidable (n.FreeOf barred i) :=
  decidable_of_iff (n.raw < i.size ∧ barred.all fun c => c ∉ (i.text n).toList)
    ⟨fun ⟨hs, hf⟩ => ⟨hs, by simpa using hf⟩, fun ⟨hs, hf⟩ => ⟨hs, by simpa using hf⟩⟩

lemma Name.FreeOf.later {barred : List Char} {i j : Interner} {n : Name} (h : n.FreeOf barred i)
    (hl : Later i j) : n.FreeOf barred j := by
  refine ⟨Nat.lt_of_lt_of_le h.stored hl.size_le, ?_⟩
  rw [hl.text h.stored]
  exact h.free

namespace ClassId

/-- A class built from names without the characters `barred` in a package without the characters
`apart`. Other texts may be stored at any time. -/
inductive BuiltFrom (barred apart : List Char) : Interner → ClassId → Prop
  | topLevel {i : Interner} {package : Package} {name : Name}
      (inPackage : package.name.FreeOf apart i) (named : name.FreeOf barred i) :
      BuiltFrom barred apart i (topLevel package name)
  | nested {i : Interner} {id : ClassId} {name : Name} (inside : BuiltFrom barred apart i id)
      (named : name.FreeOf barred i) :
      BuiltFrom barred apart ((id.nested name).run i).2 ((id.nested name).eval i)
  | later {i j : Interner} {id : ClassId} (before : BuiltFrom barred apart i id)
      (growth : Later i j) : BuiltFrom barred apart j id

section

variable {barred apart : List Char} {i : Interner} {a b id : ClassId}

lemma BuiltFrom.nesting (h : BuiltFrom barred apart i id) (hdot : '.' ∈ barred) :
    ∃ around, Nesting i id around := by
  induction h with
  | topLevel _ named => exact ⟨[], .topLevel _ named.stored (named.free '.' hdot)⟩
  | nested _ named ih =>
    obtain ⟨around, hinside⟩ := ih
    exact ⟨_, hinside.nested named.stored (named.free '.' hdot)⟩
  | later _ growth ih =>
    obtain ⟨around, hbefore⟩ := ih
    exact ⟨around, hbefore.later growth⟩

lemma BuiltFrom.inPackage (h : BuiltFrom barred apart i id) : id.package.name.FreeOf apart i := by
  induction h with
  | topLevel inPackage _ => exact inPackage
  | nested _ _ ih => exact ih.later (later_nested _ _ _)
  | later _ growth ih => exact ih.later growth

lemma BuiltFrom.free_path (h : BuiltFrom barred apart i id) (hdot : '.' ∈ barred) {c : Char}
    (hc : c ∈ barred) (hne : c ≠ '.') : c ∉ (i.text id.relative).toList := by
  induction h with
  | topLevel _ named => exact named.free c hc
  | nested _ named ih =>
    rw [text_nested, nestedPath, Text.toList_dotted, List.mem_append, List.mem_cons]
    rintro (hpath | hd | hname)
    · exact ih hpath
    · exact hne hd
    · exact named.free c hc hname
  | later before growth ih =>
    obtain ⟨around, hbefore⟩ := before.nesting hdot
    rwa [growth.text hbefore.storedIn.relative]

lemma text_eq_shown (hi : i.Reachable) (hp : id.package.name.raw < i.size)
    (hr : id.relative.raw < i.size) :
    id.text i = shown (i.text id.package.name) (i.text id.relative) :=
  Shows.text ⟨get?_text hi.nodup hp, get?_text hi.nodup hr⟩ hi

lemma BuiltFrom.eq_of_texts (hi : i.Reachable) (ha : BuiltFrom barred apart i a)
    (hb : BuiltFrom barred apart i b) (hdot : '.' ∈ barred)
    (hpackage : i.text a.package.name = i.text b.package.name)
    (hpath : i.text a.relative = i.text b.relative) : a = b := by
  obtain ⟨around, hna⟩ := ha.nesting hdot
  obtain ⟨other, hnb⟩ := hb.nesting hdot
  have hp := text_injective hi.nodup ha.inPackage.stored hb.inPackage.stored hpackage
  have hr := text_injective hi.nodup hna.storedIn.relative hnb.storedIn.relative hpath
  have hs : a.short = b.short := by
    apply text_injective hi.nodup hna.storedIn.short hnb.storedIn.short
    rw [hna.text_short, hnb.text_short, hpath]
  obtain ⟨⟨p⟩, r, s⟩ := a
  obtain ⟨⟨q⟩, t, u⟩ := b
  cases hp
  cases hr
  cases hs
  rfl

lemma BuiltFrom.eq_of_text (hi : i.Reachable) (ha : BuiltFrom barred apart i a)
    (hb : BuiltFrom barred apart i b) (hdot : '.' ∈ barred) (hslash : '/' ∈ barred)
    (h : a.text i = b.text i) : a = b := by
  obtain ⟨around, hna⟩ := ha.nesting hdot
  obtain ⟨other, hnb⟩ := hb.nesting hdot
  rw [text_eq_shown hi ha.inPackage.stored hna.storedIn.relative,
    text_eq_shown hi hb.inPackage.stored hnb.storedIn.relative] at h
  obtain ⟨hpackage, hpath⟩ := shown_inj (ha.free_path hdot hslash (by decide))
    (hb.free_path hdot hslash (by decide)) h
  exact ha.eq_of_texts hi hb hdot hpackage hpath

lemma BuiltFrom.free_text (h : BuiltFrom barred apart i id) (hdot : '.' ∈ barred) {c : Char}
    (hc : c ∈ barred) (hdivide : c ≠ '.' ∧ c ≠ '/') (ha : c ∈ apart) :
    c ∉ (id.text i).toList := by
  have hpath := h.free_path hdot hc hdivide.1
  rw [ClassId.text]
  split
  · exact hpath
  · have hpackage := h.inPackage.free c ha
    simp only [String.toList_append, List.mem_append, Package.text]
    simp [hpackage, hpath, hdivide.2]

end

end ClassId

namespace CallableId

/-- A callable whose own name, and those of the classes around it, hold none of the characters
`barred`, in a package without the characters `apart`. -/
inductive BuiltFrom (barred apart : List Char) (i : Interner) : CallableId → Prop
  | topLevel {package : Package} {name : Name} (inPackage : package.name.FreeOf apart i)
      (named : name.FreeOf barred i) : BuiltFrom barred apart i (topLevel package name)
  | member {owner : ClassId} {name : Name} (inside : owner.BuiltFrom barred apart i)
      (named : name.FreeOf barred i) : BuiltFrom barred apart i (member owner name)
  | constructorOf {owner : ClassId} (inside : owner.BuiltFrom barred apart i) :
      BuiltFrom barred apart i (constructorOf owner)

section

variable {i : Interner}

lemma text_topLevel (hi : i.Reachable) {package : Package} {name : Name}
    (hp : package.name.raw < i.size) (hn : name.raw < i.size) :
    (topLevel package name).text i = ClassId.shown (i.text package.name) (i.text name) :=
  (ClassId.text_eq_shown hi hp hn : (ClassId.topLevel package name).text i = _)

lemma text_member (hi : i.Reachable) {owner : ClassId} (hp : owner.package.name.raw < i.size)
    (hr : owner.relative.raw < i.size) (name : Name) :
    (member owner name).text i =
      ClassId.shown (i.text owner.package.name) (i.text owner.relative ++ "." ++ i.text name) := by
  have hmember : (member owner name).text i = owner.text i ++ "." ++ i.text name := rfl
  rw [hmember, ClassId.text_eq_shown hi hp hr]
  simp only [ClassId.shown]
  split
  · rfl
  · simp only [String.append_assoc]

variable {apart : List Char} {x y : CallableId}

/-- A callable is shown as a package and a path that ends in its name. Members have a dot in their
path, others have none. -/
inductive ShownAs (apart : List Char) (i : Interner) : CallableId → String → String → Prop
  | topLevel {package : Package} {name : Name} (inPackage : package.name.FreeOf apart i)
      (named : name.FreeOf ['.', '/'] i) :
      ShownAs apart i (topLevel package name) (i.text package.name) (i.text name)
  | member {owner : ClassId} {name : Name} (inside : owner.BuiltFrom ['.', '/'] apart i)
      (named : name.FreeOf ['.', '/'] i) :
      ShownAs apart i (member owner name) (i.text owner.package.name)
        (i.text owner.relative ++ "." ++ i.text name)

lemma freeOf_init (hi : i.Reachable) : Name.init.FreeOf ['.', '/'] i :=
  Name.FreeOf.later (by decide) hi

lemma BuiltFrom.exists_shownAs (hi : i.Reachable) (h : BuiltFrom ['.', '/'] apart i x) :
    ∃ scope path, ShownAs apart i x scope path := by
  cases h with
  | topLevel inPackage named => exact ⟨_, _, .topLevel inPackage named⟩
  | member inside named => exact ⟨_, _, .member inside named⟩
  | constructorOf inside => exact ⟨_, _, .member inside (freeOf_init hi)⟩

variable {scope path : String}

lemma ShownAs.text (h : ShownAs apart i x scope path) (hi : i.Reachable) :
    x.text i = ClassId.shown scope path := by
  cases h with
  | topLevel inPackage named => exact text_topLevel hi inPackage.stored named.stored
  | member inside _ =>
    obtain ⟨around, hnesting⟩ := inside.nesting (by decide)
    exact text_member hi inside.inPackage.stored hnesting.storedIn.relative _

lemma ShownAs.slash_notMem (h : ShownAs apart i x scope path) : '/' ∉ path.toList := by
  cases h with
  | topLevel _ named => exact named.free '/' (by decide)
  | member inside named =>
    rw [Text.toList_dotted, List.mem_append, List.mem_cons]
    rintro (hpath | hd | hname)
    · exact inside.free_path (by decide) (by decide) (by decide) hpath
    · exact absurd hd (by decide)
    · exact named.free '/' (by decide) hname

lemma dotted_inj {p q m n : String} (hm : '.' ∉ m.toList) (hn : '.' ∉ n.toList)
    (h : p ++ "." ++ m = q ++ "." ++ n) : p = q ∧ m = n := by
  have hbefore := Text.beforeLastDot?_dotted p hm
  have hafter := Text.afterLastDot_dotted p hm
  rw [h, Text.beforeLastDot?_dotted q hn] at hbefore
  rw [h, Text.afterLastDot_dotted q hn] at hafter
  exact ⟨(Option.some.inj hbefore).symm, hafter.symm⟩

lemma ShownAs.unique (hi : i.Reachable) (hx : ShownAs apart i x scope path)
    (hy : ShownAs apart i y scope path) : x = y := by
  have hdot {p m : String} : '.' ∈ (p ++ "." ++ m).toList := by simp
  generalize hscope : scope = other at hy
  generalize hpath : path = way at hy
  cases hx with
  | @topLevel package name inPackage named =>
    cases hy with
    | topLevel inPackage' named' =>
      have hp := text_injective hi.nodup inPackage.stored inPackage'.stored hscope
      have hn := text_injective hi.nodup named.stored named'.stored hpath
      rw [show package = _ from congrArg Package.mk hp, hn]
    | member => exact absurd (hpath ▸ hdot) (named.free '.' (by decide))
  | member inside named =>
    cases hy with
    | topLevel _ named' => exact absurd (hpath ▸ hdot) (named'.free '.' (by decide))
    | member inside' named' =>
      obtain ⟨howner, hname⟩ :=
        dotted_inj (named.free '.' (by decide)) (named'.free '.' (by decide)) hpath
      rw [inside.eq_of_texts hi inside' (by decide) hscope howner,
        text_injective hi.nodup named.stored named'.stored hname]

lemma BuiltFrom.eq_of_text (hi : i.Reachable) (hx : BuiltFrom ['.', '/'] apart i x)
    (hy : BuiltFrom ['.', '/'] apart i y) (h : x.text i = y.text i) : x = y := by
  obtain ⟨scope, path, hsx⟩ := hx.exists_shownAs hi
  obtain ⟨other, way, hsy⟩ := hy.exists_shownAs hi
  rw [hsx.text hi, hsy.text hi] at h
  obtain ⟨rfl, rfl⟩ := ClassId.shown_inj hsx.slash_notMem hsy.slash_notMem h
  exact hsx.unique hi hsy

end

end CallableId

namespace TypeRef

inductive Everywhere (P : ClassId → Prop) : TypeRef → Prop
  | mk {id : ClassId} {nullable : Bool} {arguments : List TypeRef} (head : P id)
      (inside : ∀ a ∈ arguments, Everywhere P a) : Everywhere P ⟨id, nullable, arguments⟩

def dividers : List Char := ['<', '>', ',', '?']

def mark (nullable : Bool) : List Char := if nullable then ['?'] else []

def bracketed (i : Interner) : List TypeRef → List Char
  | [] => []
  | a :: rest => '<' :: ((argumentsText i (a :: rest)).toList ++ ['>'])

def following (i : Interner) : List TypeRef → List Char
  | [] => []
  | a :: rest => ',' :: ' ' :: (argumentsText i (a :: rest)).toList

lemma toList_text (i : Interner) (id : ClassId) (nullable : Bool) (arguments : List TypeRef) :
    (text i ⟨id, nullable, arguments⟩).toList =
      (id.text i).toList ++ (bracketed i arguments ++ mark nullable) := by
  rw [text]
  cases arguments <;> cases nullable <;> simp [bracketed, mark]

lemma toList_argumentsText (i : Interner) (a : TypeRef) (rest : List TypeRef) :
    (argumentsText i (a :: rest)).toList = (a.text i).toList ++ following i rest := by
  cases rest <;> simp [argumentsText, following]

def Ends (rest : List Char) : Prop := ∀ c ∈ rest.head?, c = ',' ∨ c = '>'

lemma ends_following (i : Interner) (arguments : List TypeRef) (rest : List Char) :
    Ends (following i arguments ++ '>' :: rest) := by
  cases arguments <;> simp [Ends, following]

lemma Ends.ne_cons {rest more : List Char} (h : Ends rest) {c : Char} (hc : c ≠ ',' ∧ c ≠ '>') :
    rest ≠ c :: more := by
  rintro rfl
  exact (h c rfl).elim hc.1 hc.2

lemma Ends.mark_inj {m n : Bool} {r s : List Char} (hr : Ends r) (hs : Ends s)
    (h : mark m ++ r = mark n ++ s) : m = n ∧ r = s := by
  cases m <;> cases n
  · exact ⟨rfl, h⟩
  · exact absurd h (hr.ne_cons (by decide))
  · exact absurd h.symm (hs.ne_cons (by decide))
  · exact ⟨rfl, (List.cons.inj h).2⟩

lemma Ends.mark_ne_cons {n : Bool} {r more : List Char} (hr : Ends r) : mark n ++ r ≠ '<' :: more := by
  cases n
  · exact hr.ne_cons (by decide)
  · exact fun h => absurd (List.cons.inj h).1 (by decide)

lemma head?_rest_mem (i : Interner) (arguments : List TypeRef) (nullable : Bool) {r : List Char}
    (hr : Ends r) : ∀ c ∈ (bracketed i arguments ++ mark nullable ++ r).head?, c ∈ dividers := by
  intro c hc
  cases arguments with
  | cons =>
    obtain rfl : '<' = c := Option.some.inj hc
    decide
  | nil =>
    cases nullable with
    | true =>
      obtain rfl : '?' = c := Option.some.inj hc
      decide
    | false =>
      rcases hr c hc with rfl | rfl
      · decide
      · decide

section

variable {P : ClassId → Prop} {i : Interner}

/-- Wherever the text of the type stands, it tells the type and where it ends. -/
def Determined (P : ClassId → Prop) (i : Interner) (a : TypeRef) : Prop :=
  ∀ b, b.Everywhere P → ∀ r s, Ends r → Ends s →
    (a.text i).toList ++ r = (b.text i).toList ++ s → a = b ∧ r = s

lemma arguments_inj {as : List TypeRef} (ha : ∀ a ∈ as, Determined P i a) (hne : as ≠ [])
    {bs : List TypeRef} (hb : ∀ b ∈ bs, b.Everywhere P) (hnb : bs ≠ []) {r s : List Char}
    (h : (argumentsText i as).toList ++ '>' :: r = (argumentsText i bs).toList ++ '>' :: s) :
    as = bs ∧ r = s := by
  induction as generalizing bs with
  | nil => exact absurd rfl hne
  | cons a as ih =>
    cases bs with
    | nil => exact absurd rfl hnb
    | cons b bs =>
      obtain ⟨ha, has⟩ := List.forall_mem_cons.mp ha
      obtain ⟨hb, hbs⟩ := List.forall_mem_cons.mp hb
      rw [toList_argumentsText, toList_argumentsText, List.append_assoc, List.append_assoc] at h
      obtain ⟨rfl, hrest⟩ := ha b hb _ _ (ends_following i as r) (ends_following i bs s) h
      -- a comma leads to the next argument and a bracket closes the list
      cases as with
      | nil =>
        cases bs with
        | nil => exact ⟨rfl, (List.cons.inj hrest).2⟩
        | cons => exact absurd (List.cons.inj hrest).1 (by decide)
      | cons c as =>
        cases bs with
        | nil => exact absurd (List.cons.inj hrest).1 (by decide)
        | cons d bs =>
          have hnext := (List.cons.inj (List.cons.inj hrest).2).2
          obtain ⟨hlist, hs⟩ := ih has (List.cons_ne_nil _ _) hbs (List.cons_ne_nil _ _) hnext
          exact ⟨congrArg (a :: ·) hlist, hs⟩

lemma bracketed_inj {as bs : List TypeRef} (ha : ∀ a ∈ as, Determined P i a)
    (hb : ∀ b ∈ bs, b.Everywhere P) {m n : Bool} {r s : List Char} (hr : Ends r) (hs : Ends s)
    (h : bracketed i as ++ mark m ++ r = bracketed i bs ++ mark n ++ s) :
    as = bs ∧ m = n ∧ r = s := by
  cases as with
  | nil =>
    cases bs with
    | nil => exact ⟨rfl, hr.mark_inj hs h⟩
    | cons b bs => exact absurd h hr.mark_ne_cons
  | cons a as =>
    cases bs with
    | nil => exact absurd h.symm hs.mark_ne_cons
    | cons b bs =>
      simp only [bracketed, List.cons_append, List.append_assoc, List.nil_append] at h
      obtain ⟨hlist, hrest⟩ := arguments_inj ha (List.cons_ne_nil _ _) hb (List.cons_ne_nil _ _)
        (List.cons.inj h).2
      exact ⟨hlist, hr.mark_inj hs hrest⟩

lemma determined (htext : ∀ a b, P a → P b → a.text i = b.text i → a = b)
    (hfree : ∀ id, P id → ∀ c ∈ dividers, c ∉ (id.text i).toList) {a : TypeRef}
    (ha : a.Everywhere P) : Determined P i a := by
  induction ha with
  | @mk id nullable arguments head inside ih =>
    rintro _ (@⟨other, nullable', arguments', head', inside'⟩) r s hr hs h
    simp only [toList_text, List.append_assoc] at h
    simp only [← List.append_assoc (bracketed _ _)] at h
    obtain ⟨hclass, hrest⟩ := Text.eq_of_append_eq (hfree id head) (hfree other head')
      (head?_rest_mem i arguments nullable hr) (head?_rest_mem i arguments' nullable' hs) h
    obtain rfl := htext id other head head' (String.toList_inj.mp hclass)
    obtain ⟨rfl, rfl, rfl⟩ := bracketed_inj ih inside' hr hs hrest
    exact ⟨rfl, rfl⟩

end

end TypeRef

/-- The last slash ends the package, so packages may hold slashes themselves. -/
theorem texts_unambiguous {i : Interner} (hi : i.Reachable) :
    (∀ a b : TypeRef,
      a.Everywhere (ClassId.BuiltFrom ['.', '/', '<', '>', ',', '?'] ['<', '>', ',', '?'] i) →
      b.Everywhere (ClassId.BuiltFrom ['.', '/', '<', '>', ',', '?'] ['<', '>', ',', '?'] i) →
      a.text i = b.text i → a = b) ∧
    ∀ x y : CallableId, x.BuiltFrom ['.', '/'] [] i → y.BuiltFrom ['.', '/'] [] i →
      x.text i = y.text i → x = y := by
  refine ⟨fun a b ha hb h => ?_, fun x y hx hy h => hx.eq_of_text hi hy h⟩
  have hdetermined := TypeRef.determined
    (fun a b ha hb => ha.eq_of_text hi hb (by decide) (by decide)) (fun id hid c hc => ?_) ha
  · exact (hdetermined b hb [] [] (by simp [TypeRef.Ends]) (by simp [TypeRef.Ends])
      (by rw [h])).1
  · have hdivide : ∀ c ∈ TypeRef.dividers, c ≠ '.' ∧ c ≠ '/' := by simp [TypeRef.dividers]
    exact hid.free_text (by decide) (List.mem_cons_of_mem _ (List.mem_cons_of_mem _ hc))
      (hdivide c hc) hc

theorem texts_unambiguous_mapCompanion :
    let map := ClassId.topLevel .kotlinCollections .map
    let companion := (map.nested .companion).eval .new
    let unnamed := (companion.nested .empty).eval ((map.nested .companion).run .new).2
    let names := ((companion.nested .empty).run ((map.nested .companion).run .new).2).2
    let plain := ClassId.BuiltFrom ['.', '/', '<', '>', ',', '?'] ['<', '>', ',', '?'] names
    let type : TypeRef :=
      ⟨companion, true, [.nonNull unnamed, ⟨Standard.list, true, [.nonNull Standard.any]⟩]⟩
    (type.Everywhere plain ∧ ∀ b, b.Everywhere plain →
      b.text names = "kotlin.collections/Map.Companion<kotlin.collections/Map.Companion., " ++
        "kotlin.collections/List<kotlin/Any>?>?" → b = type) ∧
    (CallableId.constructorOf unnamed).BuiltFrom ['.', '/'] [] names ∧
      ∀ y : CallableId, y.BuiltFrom ['.', '/'] [] names →
        y.text names = "kotlin.collections/Map.Companion..<init>" → y = .constructorOf unnamed := by
  intro map companion unnamed names plain type
  have hnames : names.Reachable :=
    (ClassId.later_nested _ _ _).trans (ClassId.later_nested _ _ _)
  have hcompanion {barred apart : List Char} (hmap : map.BuiltFrom barred apart .new)
      (hname : Name.companion.FreeOf barred .new) : companion.BuiltFrom barred apart _ :=
    hmap.nested hname
  have hunnamed {barred apart : List Char} (hmap : map.BuiltFrom barred apart .new)
      (hname : Name.companion.FreeOf barred .new)
      (hempty : Name.empty.FreeOf barred ((map.nested .companion).run .new).2) :
      unnamed.BuiltFrom barred apart names :=
    (hcompanion hmap hname).nested hempty
  have hmap : map.BuiltFrom ['.', '/', '<', '>', ',', '?'] ['<', '>', ',', '?'] .new :=
    .topLevel (by decide) (by decide)
  have hlist : plain Standard.list := .later (.topLevel (by decide) (by decide)) hnames
  have hany : plain Standard.any := .later (.topLevel (by decide) (by decide)) hnames
  have hplain : plain companion := (hcompanion hmap (by decide)).later (ClassId.later_nested _ _ _)
  have htype : type.Everywhere plain := by
    refine .mk hplain (List.forall_mem_cons.mpr ⟨?_, List.forall_mem_singleton.mpr ?_⟩)
    · exact .mk (hunnamed hmap (by decide) (by decide)) (by simp)
    · exact .mk hlist (List.forall_mem_singleton.mpr (.mk hany (by simp)))
  have hconstructor : (CallableId.constructorOf unnamed).BuiltFrom ['.', '/'] [] names :=
    .constructorOf (hunnamed (.topLevel (by decide) (by decide)) (by decide) (by decide))
  obtain ⟨htypes, hcallables⟩ := texts_unambiguous hnames
  refine ⟨⟨htype, fun b hb h => htypes b type hb htype (h.trans ?_)⟩, hconstructor,
    fun y hy h => hcallables y _ hy hconstructor (h.trans ?_)⟩
  · decide +kernel
  · decide +kernel

end ClrCompiler
