import ClrCompiler.Command.Options
import Mathlib.Data.List.Basic
import Mathlib.Data.List.Infix

/-! Reading command lines. An argument is read for itself, together with the one after it if it is a
flag; what stands at such a position sets one option or stops the reading. A command line is read
position by position, so it can be cut after any part that reads well, and what comes of it is told
by its settings. -/

namespace ClrCompiler.Command.Options

def Target.flag : Target → String
  | .source => "--source"
  | .assembly => "--assembly"
  | .moduleName => "--module"
  | .output => "--output"
  | .implicitPackage => "--implicit-package"

/-- The ends of a command line that begin with an argument read for itself: a flag takes the
argument after it along, everything else stands alone. -/
def positions : List String → List (List String)
  | [] => []
  | [argument] => [[argument]]
  | argument :: following :: rest =>
    (argument :: following :: rest) ::
      if (targetOf argument).isSome then positions rest else positions (following :: rest)

inductive Reads : List String → Target × String → List String → Prop
  | separate {flag : String} {target : Target} (value : String) (rest : List String) :
      targetOf flag = some target → Reads (flag :: value :: rest) (target, value) rest
  | inline (target : Target) (value : String) (rest : List String) :
      Reads ((target.flag ++ "=" ++ value) :: rest) (target, value) rest
  | root {argument : String} (rest : List String) : isOption argument = false →
      Reads (argument :: rest) (.source, argument) rest

def Unknown (argument : String) : Prop :=
  isOption argument ∧ targetOf argument = none ∧
    ∀ target value, argument ≠ Target.flag target ++ "=" ++ value

inductive Stops : List String → UsageError → Prop
  | unknown {argument : String} (rest : List String) : Unknown argument →
      Stops (argument :: rest) (.unknownOption argument)
  | missing {flag : String} {target : Target} : targetOf flag = some target →
      Stops [flag] (.missingValue flag)

def values (target : Target) (settings : List (Target × String)) : List String :=
  (settings.filter (·.1 = target)).map Prod.snd

/-- Lists are extended in order, and of single values the last one counts. -/
def after (o : Options) (settings : List (Target × String)) : Options where
  moduleName := (values .moduleName settings).getLast?.getD o.moduleName
  assemblies := o.assemblies ++ values .assembly settings
  sourceRoots := o.sourceRoots ++ values .source settings
  outputDirectory := (values .output settings).getLast?.or o.outputDirectory
  implicitPackages := o.implicitPackages ++ values .implicitPackage settings

lemma targetOf_flag (target : Target) : targetOf target.flag = some target := by
  cases target <;> rfl

def IsLong (flag : String) : Prop := ['-', '-'] <+: flag.toList

instance (flag : String) : Decidable (IsLong flag) := inferInstanceAs (Decidable (_ <+: _))

lemma flag_of_targetOf {flag : String} {target : Target} (h : targetOf flag = some target) :
    isOption flag ∧ '=' ∉ flag.toList ∧ (IsLong flag → flag = target.flag) := by
  unfold targetOf at h
  split at h
  case h_9 => cases h
  all_goals
    cases h
    decide +kernel

lemma cut_append {flag : String} (hlong : IsLong flag) (hcut : '=' ∉ flag.toList) (value : String) :
    cut (flag ++ "=" ++ value) = (flag, some value) := by
  obtain ⟨name, hname⟩ := hlong
  have hchars : (flag ++ "=" ++ value).toList = flag.toList ++ '=' :: value.toList := by simp
  have hkept : ∀ c ∈ flag.toList, (c != '=') = true :=
    fun c hc => bne_iff_ne.mpr fun he => hcut (he ▸ hc)
  have hbefore : (flag.toList ++ '=' :: value.toList).takeWhile (· != '=') = flag.toList := by
    rw [List.takeWhile_append_of_pos hkept]
    simp
  simp only [cut, hchars, hbefore, List.drop_left]
  rw [← hname]
  change (String.ofList (['-', '-'] ++ name), some (String.ofList value.toList)) = _
  rw [hname, String.ofList_toList, String.ofList_toList]

lemma cut_cases (argument : String) : cut argument = (argument, none) ∨
    ∃ flag value, IsLong flag ∧ argument = flag ++ "=" ++ value ∧
      cut argument = (flag, some value) := by
  have hsplit := List.prefix_append_drop (argument.toList.takeWhile_prefix (· != '='))
  rw [cut]
  split
  · rename_i name value hbefore hafter
    rw [hbefore] at hafter hsplit ⊢
    rw [hafter] at hsplit
    refine .inr ⟨_, _, ?_, ?_, rfl⟩
    · exact ⟨name, by simp⟩
    · rw [← String.toList_inj, hsplit]
      simp
  · exact .inl rfl

lemma cut_of_targetOf {flag : String} {target : Target} (h : targetOf flag = some target) :
    cut flag = (flag, none) := by
  rcases cut_cases flag with hcut | ⟨name, value, -, rfl, -⟩
  · exact hcut
  · exact absurd (by simp) (flag_of_targetOf h).2.1

lemma targetOf_inline (target : Target) (value : String) :
    targetOf (target.flag ++ "=" ++ value) = none := by
  rw [Option.eq_none_iff_forall_ne_some]
  intro other h
  exact (flag_of_targetOf h).2.1 (by simp)

lemma targetOf_root {argument : String} (h : isOption argument = false) :
    targetOf argument = none := by
  rw [Option.eq_none_iff_forall_ne_some]
  intro target ht
  exact Bool.false_ne_true (h.symm.trans (flag_of_targetOf ht).1)

lemma isOption_append {flag : String} (hlong : IsLong flag) (value : String) :
    isOption (flag ++ "=" ++ value) := by
  obtain ⟨name, hname⟩ := hlong
  simp [isOption, ← hname]

section

variable (o : Options)

lemma parseFrom_separate {flag : String} {target : Target} (h : targetOf flag = some target)
    (value : String) (rest : List String) :
    o.parseFrom (flag :: value :: rest) = (o.set target value).parseFrom rest := by
  rw [parseFrom, cut_of_targetOf h]
  simp only [h]

lemma parseFrom_missing {flag : String} {target : Target} (h : targetOf flag = some target) :
    o.parseFrom [flag] = .error (.missingValue flag) := by
  rw [parseFrom, cut_of_targetOf h]
  simp only [h]

lemma parseFrom_inline (target : Target) (value : String) (rest : List String) :
    o.parseFrom ((target.flag ++ "=" ++ value) :: rest) =
      (o.set target value).parseFrom rest := by
  have hflag : IsLong target.flag := by cases target <;> decide
  have hcut := cut_append hflag (flag_of_targetOf (targetOf_flag target)).2.1 value
  rw [parseFrom, hcut]
  simp only [targetOf_flag]

lemma parseFrom_root {argument : String} (h : isOption argument = false) (rest : List String) :
    o.parseFrom (argument :: rest) = (o.set .source argument).parseFrom rest := by
  have htarget := targetOf_root h
  rcases cut_cases argument with hcut | ⟨flag, value, hlong, rfl, -⟩
  · rw [parseFrom, hcut]
    simp [htarget, h]
  · simp [isOption_append hlong] at h

lemma parseFrom_unknown {argument : String} (h : Unknown argument) (rest : List String) :
    o.parseFrom (argument :: rest) = .error (.unknownOption argument) := by
  obtain ⟨hoption, htarget, hinline⟩ := h
  rcases cut_cases argument with hcut | ⟨flag, value, hlong, hargument, hcut⟩
  · rw [parseFrom, hcut]
    simp [htarget, hoption]
  · have hflag : targetOf flag = none := by
      rw [Option.eq_none_iff_forall_ne_some]
      intro target ht
      rw [(flag_of_targetOf ht).2.2 hlong] at hargument
      exact hinline target value hargument
    rw [parseFrom, hcut]
    simp [hflag, hoption]

end

section

variable {args rest : List String} {setting : Target × String}

lemma Reads.parseFrom_eq (h : Reads args setting rest) (o : Options) :
    o.parseFrom args = (o.set setting.1 setting.2).parseFrom rest := by
  cases h with
  | separate value rest h => exact o.parseFrom_separate h value rest
  | inline target value rest => exact o.parseFrom_inline target value rest
  | root rest h => exact o.parseFrom_root h rest

lemma Reads.append (h : Reads args setting rest) (ys : List String) :
    Reads (args ++ ys) setting (rest ++ ys) := by
  cases h with
  | separate value rest h => exact .separate value (rest ++ ys) h
  | inline target value rest => exact .inline target value (rest ++ ys)
  | root rest h => exact .root (rest ++ ys) h

lemma Reads.positions_eq (h : Reads args setting rest) :
    positions args = args :: positions rest := by
  cases h with
  | separate value rest h => simp [positions, h]
  | inline target value rest => cases rest <;> simp [positions, targetOf_inline]
  | root rest h => cases rest <;> simp [positions, targetOf_root h]

lemma Reads.length_lt (h : Reads args setting rest) : rest.length < args.length := by
  cases h with
  | separate => exact Nat.lt_add_of_pos_right Nat.zero_lt_two
  | inline => exact Nat.lt_succ_self _
  | root => exact Nat.lt_succ_self _

lemma Reads.not_stops (h : Reads args setting rest) (e : UsageError) : ¬ Stops args e := by
  intro hs
  cases h with
  | separate value rest h =>
    cases hs with
    | unknown _ hu => exact Option.some_ne_none _ (h.symm.trans hu.2.1)
  | inline target value rest =>
    cases hs with
    | unknown _ hu => exact hu.2.2 target value rfl
    | missing h => exact Option.some_ne_none _ (h.symm.trans (targetOf_inline target value))
  | root rest h =>
    cases hs with
    | unknown _ hu => exact Bool.false_ne_true (h.symm.trans hu.1)
    | missing ht => exact Option.some_ne_none _ (ht.symm.trans (targetOf_root h))

lemma Stops.parseFrom_eq {e : UsageError} (h : Stops args e) (o : Options) :
    o.parseFrom args = .error e := by
  cases h with
  | unknown rest h => exact o.parseFrom_unknown h rest
  | missing h => exact o.parseFrom_missing h

end

lemma reads_or_stops (argument : String) (rest : List String) :
    (∃ setting left, Reads (argument :: rest) setting left) ∨
      ∃ e, Stops (argument :: rest) e := by
  cases htarget : targetOf argument with
  | some target =>
    cases rest with
    | nil => exact .inr ⟨_, .missing htarget⟩
    | cons value rest => exact .inl ⟨_, _, .separate value rest htarget⟩
  | none =>
    cases hoption : isOption argument with
    | false => exact .inl ⟨_, _, .root rest hoption⟩
    | true =>
      by_cases hinline : ∃ target value, argument = Target.flag target ++ "=" ++ value
      · obtain ⟨target, value, rfl⟩ := hinline
        exact .inl ⟨_, _, .inline target value rest⟩
      · push Not at hinline
        exact .inr ⟨_, .unknown rest ⟨hoption, htarget, hinline⟩⟩

inductive ReadAs : List String → List (Target × String) → Prop
  | done : ReadAs [] []
  | next {args rest : List String} {setting : Target × String}
      {settings : List (Target × String)} : Reads args setting rest → ReadAs rest settings →
      ReadAs args (setting :: settings)

inductive FailsWith : List String → UsageError → Prop
  | here {args : List String} {e : UsageError} : Stops args e → FailsWith args e
  | later {args rest : List String} {setting : Target × String} {e : UsageError} :
      Reads args setting rest → FailsWith rest e → FailsWith args e

-- a flag and its value go at once, so the induction is on the length
lemma readAs_or_failsWith (args : List String) :
    (∃ settings, ReadAs args settings) ∨ ∃ e, FailsWith args e := by
  induction hn : args.length using Nat.strong_induction_on generalizing args with
  | _ n ih =>
    cases args with
    | nil => exact .inl ⟨[], .done⟩
    | cons argument rest =>
      rcases reads_or_stops argument rest with ⟨setting, left, hreads⟩ | ⟨e, hstops⟩
      · rcases ih left.length (hn ▸ hreads.length_lt) left rfl with ⟨settings, h⟩ | ⟨e, h⟩
        · exact .inl ⟨_, .next hreads h⟩
        · exact .inr ⟨e, .later hreads h⟩
      · exact .inr ⟨e, .here hstops⟩

lemma after_cons (o : Options) (setting : Target × String) (settings : List (Target × String)) :
    o.after (setting :: settings) = (o.set setting.1 setting.2).after settings := by
  obtain ⟨target, value⟩ := setting
  cases target <;> simp [after, set, values, List.getLast?_cons]

section

variable {args : List String} {settings : List (Target × String)} {e : UsageError}

lemma ReadAs.parseFrom_append (h : ReadAs args settings) (o : Options) (ys : List String) :
    o.parseFrom (args ++ ys) = (o.after settings).parseFrom ys := by
  induction h generalizing o with
  | done => simp [after, values]
  | next hreads _ ih => rw [(hreads.append ys).parseFrom_eq, ih, after_cons]

lemma ReadAs.parseFrom_eq (h : ReadAs args settings) (o : Options) :
    o.parseFrom args = .ok (o.after settings) := by
  have hend := h.parseFrom_append o []
  rwa [List.append_nil, parseFrom] at hend

lemma ReadAs.not_stops (h : ReadAs args settings) :
    ∀ place ∈ positions args, ∀ e, ¬ Stops place e := by
  induction h with
  | done => simp [positions]
  | next hreads _ ih =>
    rw [hreads.positions_eq]
    exact List.forall_mem_cons.mpr ⟨hreads.not_stops, ih⟩

lemma FailsWith.parseFrom_eq (h : FailsWith args e) (o : Options) :
    o.parseFrom args = .error e := by
  induction h generalizing o with
  | here hstops => exact hstops.parseFrom_eq o
  | later hreads _ ih => rw [hreads.parseFrom_eq, ih]

lemma FailsWith.first (h : FailsWith args e) : ∃ before place later,
    positions args = before ++ place :: later ∧ Stops place e ∧
      ∀ earlier ∈ before, ∀ e', ¬ Stops earlier e' := by
  induction h with
  | @here args e hstops =>
    obtain ⟨later, hlater⟩ : ∃ later, positions args = args :: later := by
      cases hstops with
      | unknown rest => cases rest <;> exact ⟨_, rfl⟩
      | missing => exact ⟨[], rfl⟩
    exact ⟨[], args, later, hlater, hstops, by simp⟩
  | @later args rest setting e hreads _ ih =>
    obtain ⟨before, place, later, hsplit, hstops, hbefore⟩ := ih
    refine ⟨args :: before, place, later, ?_, hstops, ?_⟩
    · rw [hreads.positions_eq, hsplit, List.cons_append]
    · exact List.forall_mem_cons.mpr ⟨hreads.not_stops, hbefore⟩

lemma parseFrom_eq_ok_iff (o d : Options) (args : List String) :
    o.parseFrom args = .ok d ↔ ∃ settings, ReadAs args settings ∧ d = o.after settings := by
  constructor
  · intro h
    rcases readAs_or_failsWith args with ⟨settings, hread⟩ | ⟨e, hfails⟩
    · rw [hread.parseFrom_eq] at h
      exact ⟨settings, hread, (Except.ok.inj h).symm⟩
    · rw [hfails.parseFrom_eq] at h
      cases h
  · rintro ⟨settings, hread, rfl⟩
    exact hread.parseFrom_eq o

lemma failsWith_of_parse {args : List String} {e : UsageError} (h : parse args = .error e) :
    FailsWith args e := by
  rcases readAs_or_failsWith args with ⟨settings, hread⟩ | ⟨e', hfails⟩
  · rw [parse, hread.parseFrom_eq] at h
    cases h
  · rw [parse, hfails.parseFrom_eq] at h
    rwa [← Except.error.inj h]

lemma parse_fails_iff (args : List String) :
    (∃ e, parse args = .error e) ↔ ∃ place ∈ positions args, ∃ e, Stops place e := by
  constructor
  · rintro ⟨e, h⟩
    obtain ⟨before, place, later, hsplit, hstops, -⟩ := (failsWith_of_parse h).first
    exact ⟨place, by simp [hsplit], e, hstops⟩
  · rintro ⟨place, hplace, e, hstops⟩
    rcases readAs_or_failsWith args with ⟨settings, hread⟩ | ⟨e', hfails⟩
    · exact absurd hstops (hread.not_stops place hplace e)
    · exact ⟨e', hfails.parseFrom_eq standard⟩

lemma parse_append {xs : List String} {c : Options} (h : parse xs = .ok c) (ys : List String) :
    parse (xs ++ ys) = c.parseFrom ys := by
  obtain ⟨settings, hread, rfl⟩ := (parseFrom_eq_ok_iff standard c xs).mp h
  exact hread.parseFrom_append standard ys

end

theorem parse_by_positions :
    (∀ args, ((∃ e, parse args = .error e) ↔ ∃ place ∈ positions args, ∃ e, Stops place e) ∧
      ∀ e, parse args = .error e → ∃ before place later,
        positions args = before ++ place :: later ∧ Stops place e ∧
          ∀ earlier ∈ before, ∀ e', ¬ Stops earlier e') ∧
    ∀ xs c, parse xs = .ok c →
      (∃ settings, ReadAs xs settings ∧ c = standard.after settings) ∧
      ∀ ys, parse (xs ++ ys) = c.parseFrom ys ∧
        (∀ d, c.parseFrom ys = .ok d ↔ ∃ settings, ReadAs ys settings ∧ d = c.after settings) ∧
        ∀ target value, parse (xs ++ [Target.flag target, value] ++ ys) =
          parse (xs ++ [Target.flag target ++ "=" ++ value] ++ ys) := by
  refine ⟨fun args => ⟨parse_fails_iff args, fun e h => (failsWith_of_parse h).first⟩, ?_⟩
  intro xs c h
  refine ⟨(parseFrom_eq_ok_iff standard c xs).mp h, fun ys => ⟨parse_append h ys,
    fun d => parseFrom_eq_ok_iff c d ys, fun target value => ?_⟩⟩
  rw [List.append_assoc, List.append_assoc, parse_append h, parse_append h]
  exact (c.parseFrom_separate (targetOf_flag target) value ys).trans
    (c.parseFrom_inline target value ys).symm

def dashedValue : List String := ["--source", "-x", "lib"]

theorem parse_by_positions_dashedValue :
    parse dashedValue = .ok { standard with sourceRoots := ["-x", "lib"] } ∧
      parse (dashedValue ++ ["--module", "a=-b"] ++ ["-o", "out", "--fast"]) =
        parse (dashedValue ++ ["--module" ++ "=" ++ "a=-b"] ++ ["-o", "out", "--fast"]) ∧
      ∃ before place later,
        positions ["-s", "--fast", "--slow", "-a"] = before ++ place :: later ∧
          Stops place (.unknownOption "--slow") ∧ ∀ earlier ∈ before, ∀ e', ¬ Stops earlier e' := by
  have hread : parse dashedValue = .ok { standard with sourceRoots := ["-x", "lib"] } := by
    decide +kernel
  have hfails : parse ["-s", "--fast", "--slow", "-a"] = .error (.unknownOption "--slow") := by
    decide +kernel
  exact ⟨hread, ((parse_by_positions.2 _ _ hread).2 ["-o", "out", "--fast"]).2.2 .moduleName "a=-b",
    (parse_by_positions.1 _).2 _ hfails⟩

end ClrCompiler.Command.Options
