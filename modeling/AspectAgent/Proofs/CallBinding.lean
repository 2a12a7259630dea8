import AspectAgent.Proofs.BindingRules

/-!
# The binding of a call

The host's own binding goes by the rules of binding, although it looks at all parameters for each of
its checks: what is surplus, which keywords name no parameter, and what has been given twice.
-/

namespace AspectAgent

namespace Binding

variable {p : Parameter} {ps : List Parameter} {keywords : Table Value}

/-- The keywords that name no parameter. -/
def unnamed (ps : List Parameter) (keywords : Table Value) : Table Value :=
  keywords.filter fun e => !ps.any fun p => acceptsKeyword p && p.name == e.1

/-- The arguments do not fit: positional ones or keywords are left over, or a parameter is given
twice. -/
def overfull (ps given : List Parameter) (surplus : List Value) (keywords : Table Value) : Bool :=
  (!surplus.isEmpty && !ps.any (·.kind == .surplus)) ||
    ((!(unnamed ps keywords).isEmpty && !ps.any (·.kind == .surplusKeywords)) ||
      given.any fun p => p.kind == .positional && keywords.has p.name)

/-- What the parameters without positional argument get. -/
def filled (surplus : List Value) (keywords rest : Table Value) (ps : List Parameter) :
    Option (Table Value) :=
  ps.mapM fun p => (fillOne surplus keywords rest p).map (p.name, ·)

theorem any_kind_cons {k : ParameterKind} (h : p.kind ≠ k) :
    ((p :: ps).any fun q => q.kind == k) = ps.any fun q => q.kind == k := by
  rw [List.any_cons, beq_eq_false_iff_ne.mpr h, Bool.false_or]

private theorem none_or_none {α : Type} (b c : Bool) (x : Option α) :
    (if b then none else if c then none else x) = if b || c then none else x := by
  cases b <;> rfl

theorem bindCall_eq {vs surplus : List Value} {bound : Table Value} {left : List Parameter}
    (h : takePositional ps vs = (bound, surplus, left)) : bindCall ps ⟨vs, keywords⟩ =
      if overfull ps (ps.take (ps.length - left.length)) surplus keywords then none
      else (filled surplus keywords (unnamed ps keywords) left).map (bound ++ ·) := by
  unfold bindCall
  dsimp only [bind, Option.bind]
  rw [h]
  dsimp only
  rw [none_or_none, none_or_none, Bool.or_assoc]
  unfold overfull filled unnamed
  congr 1
  generalize List.mapM (m := Option) _ left = rest
  cases rest <;> rfl

theorem length_takePositional (ps : List Parameter) (vs : List Value) :
    (takePositional ps vs).2.2.length ≤ ps.length := by
  fun_induction takePositional ps vs with
  | case1 => simp_all; omega
  | case2 => simp
  | case3 => simp

theorem takePositional_nil (ps : List Parameter) : takePositional ps [] = ([], [], ps) := by
  cases ps <;> rfl

theorem filled_cons (surplus : List Value) (rest : Table Value) (p : Parameter)
    (ps : List Parameter) : filled surplus keywords rest (p :: ps) =
      (fillOne surplus keywords rest p).bind fun v =>
        (filled surplus keywords rest ps).map ((p.name, v) :: ·) := by
  unfold filled
  rw [List.mapM_cons]
  cases fillOne surplus keywords rest p with
  | none => rfl
  | some v => cases ps.mapM fun p => (fillOne surplus keywords rest p).map (p.name, ·) <;> rfl

theorem unnamed_cons_of_not_accepts (h : acceptsKeyword p = false) :
    unnamed (p :: ps) keywords = unnamed ps keywords := by
  simp [unnamed, h]

theorem unnamed_cons_of_not_has (h : keywords.has p.name = false) :
    unnamed (p :: ps) keywords = unnamed ps keywords := by
  refine List.filter_congr fun e he => ?_
  have hne : (p.name == e.1) = false := by simpa using (Table.ne_of_not_has h he).symm
  simp [hne]

theorem unnamed_remove (h : acceptsKeyword p = true) :
    unnamed ps (keywords.remove p.name) = unnamed (p :: ps) keywords := by
  unfold unnamed Table.remove
  rw [List.filter_filter]
  refine List.filter_congr fun e _ => ?_
  by_cases hname : e.1 = p.name
  · simp [h, hname]
  · simp [h, hname, Ne.symm hname]

theorem filled_congr {surplus surplus' : List Value} {keywords keywords' rest : Table Value}
    (h : ∀ p ∈ ps, fillOne surplus keywords rest p = fillOne surplus' keywords' rest p) :
    filled surplus keywords rest ps = filled surplus' keywords' rest ps := by
  induction ps with
  | nil => rfl
  | cons p ps ih =>
    rw [filled_cons, filled_cons, h p List.mem_cons_self,
      ih fun q hq => h q (List.mem_cons_of_mem p hq)]

theorem fillOne_of_surplus_ne {surplus surplus' : List Value} {rest : Table Value}
    (h : p.kind ≠ .surplus) :
    fillOne surplus keywords rest p = fillOne surplus' keywords rest p := by
  unfold fillOne
  cases hkind : p.kind with
  | surplus => exact absurd hkind h
  | _ => rfl

theorem fillOne_remove {surplus : List Value} {rest : Table Value} {k : String}
    (h : k ≠ p.name) :
    fillOne surplus (keywords.remove k) rest p = fillOne surplus keywords rest p := by
  unfold fillOne
  rw [Table.get?_remove, if_neg h]

/-- Without positional arguments the keywords decide. -/
theorem bindCall_nil_args (ps : List Parameter) (keywords : Table Value) :
    bindCall ps ⟨[], keywords⟩ =
      if !(unnamed ps keywords).isEmpty && !ps.any (·.kind == .surplusKeywords) then none
      else filled [] keywords (unnamed ps keywords) ps := by
  rw [bindCall_eq (takePositional_nil ps), Nat.sub_self, List.take_zero]
  simp [overfull]

theorem bindCall_surplus (vs : List Value) (hps : Parameter.WellFormed (p :: ps))
    (hp : p.kind = .surplus) : bindCall (p :: ps) ⟨vs, keywords⟩ =
      (bindCall ps ⟨[], keywords⟩).map ((p.name, .tuple vs) :: ·) := by
  have htake : takePositional (p :: ps) vs = ([], vs, p :: ps) := by
    cases vs with
    | nil => rfl
    | cons v vs => simp [takePositional, hp]
  have hunnamed : unnamed (p :: ps) keywords = unnamed ps keywords :=
    unnamed_cons_of_not_accepts (by simp [acceptsKeyword, hp])
  have hrest : filled vs keywords (unnamed ps keywords) ps =
      filled [] keywords (unnamed ps keywords) ps := by
    refine filled_congr fun q hq => fillOne_of_surplus_ne fun hkind => ?_
    have hnone := List.any_eq_false.mp (hps.no_surplus (by simp [hp]) (by simp [hp])) q hq
    exact hnone (by simp [hkind])
  have hvalue : fillOne vs keywords (unnamed ps keywords) p = some (.tuple vs) := by
    simp [fillOne, hp]
  have hover : overfull (p :: ps) [] vs keywords =
      (!(unnamed ps keywords).isEmpty && !ps.any (·.kind == .surplusKeywords)) := by
    rw [overfull, hunnamed, any_kind_cons (k := .surplusKeywords) (by simp [hp])]
    simp [hp]
  rw [bindCall_eq htake, bindCall_nil_args, Nat.sub_self, List.take_zero, hover, hunnamed,
    filled_cons, hvalue, hrest]
  split
  · rfl
  · rw [Option.bind_some, Option.map_map]
    rfl

theorem bindCall_refused (v : Value) (vs : List Value) (keywords : Table Value)
    (hps : Parameter.WellFormed (p :: ps))
    (hp : p.kind = .keywordOnly ∨ p.kind = .surplusKeywords) :
    bindCall (p :: ps) ⟨v :: vs, keywords⟩ = none := by
  have hkinds : p.kind ≠ .positionalOnly ∧ p.kind ≠ .positional ∧ p.kind ≠ .surplus := by
    rcases hp with hp | hp <;> simp [hp]
  have htake : takePositional (p :: ps) (v :: vs) = ([], v :: vs, p :: ps) := by
    simp [takePositional, hkinds.1, hkinds.2.1]
  have hover : overfull (p :: ps) [] (v :: vs) keywords = true := by
    simp [overfull, hps.no_surplus hkinds.1 hkinds.2.1, hkinds.2.2]
  rw [bindCall_eq htake, Nat.sub_self, List.take_zero, if_pos hover]

theorem bindCall_positional (v : Value) (vs : List Value)
    (hkeywords : Parameter.NoneHidden (p :: ps) keywords)
    (hp : p.kind = .positionalOnly ∨ p.kind = .positional) :
    bindCall (p :: ps) ⟨v :: vs, keywords⟩ =
      if keywords.has p.name then none
      else (bindCall ps ⟨vs, keywords⟩).map ((p.name, v) :: ·) := by
  obtain ⟨bound, surplus, left, hrest⟩ : ∃ bound surplus left,
      takePositional ps vs = (bound, surplus, left) := ⟨_, _, _, rfl⟩
  have htake : takePositional (p :: ps) (v :: vs) = ((p.name, v) :: bound, surplus, left) := by
    rw [takePositional, if_pos hp, hrest]
  have hlength : (p :: ps).length - left.length = (ps.length - left.length) + 1 := by
    have hle : left.length ≤ ps.length := by simpa only [hrest] using length_takePositional ps vs
    rw [List.length_cons]
    omega
  rw [bindCall_eq htake, bindCall_eq hrest, hlength, List.take_succ_cons]
  cases hhas : keywords.has p.name with
  | true =>
    have hkind : p.kind = .positional := by
      refine hp.resolve_left fun honly => ?_
      have hnot := hkeywords p List.mem_cons_self honly
      rw [hhas] at hnot
      cases hnot
    simp [overfull, hhas, hkind]
  | false =>
    have hover : overfull (p :: ps) (p :: ps.take (ps.length - left.length)) surplus keywords =
        overfull ps (ps.take (ps.length - left.length)) surplus keywords := by
      unfold overfull
      rw [any_kind_cons (by rcases hp with hp | hp <;> simp [hp]),
        any_kind_cons (by rcases hp with hp | hp <;> simp [hp]), unnamed_cons_of_not_has hhas]
      simp [hhas]
    rw [hover, unnamed_cons_of_not_has hhas, if_neg Bool.false_ne_true]
    split
    · rfl
    · rw [Option.map_map]
      rfl

theorem bindCall_named (hps : Parameter.WellFormed (p :: ps))
    (hkeywords : Parameter.NoneHidden (p :: ps) keywords) (hp : p.isVariadic = false) :
    bindCall (p :: ps) ⟨[], keywords⟩ = ((keywords.get? p.name).or p.default).bind fun v =>
      (bindCall ps ⟨[], keywords.remove p.name⟩).map ((p.name, v) :: ·) := by
  have hunnamed : unnamed ps (keywords.remove p.name) = unnamed (p :: ps) keywords := by
    by_cases haccepts : acceptsKeyword p = true
    · exact unnamed_remove haccepts
    · have honly : p.kind = .positionalOnly := by
        revert hp haccepts
        cases hkind : p.kind <;> simp [Parameter.isVariadic, acceptsKeyword, hkind]
      rw [Table.remove_of_not_has (hkeywords p List.mem_cons_self honly),
        unnamed_cons_of_not_accepts (by simpa using haccepts)]
  have hvalue : ∀ rest, fillOne [] keywords rest p = (keywords.get? p.name).or p.default := by
    intro rest
    unfold fillOne
    cases hkind : p.kind with
    | positionalOnly =>
      rw [Table.get?_of_not_has (hkeywords p List.mem_cons_self hkind)]
      rfl
    | surplus => simp [Parameter.isVariadic, hkind] at hp
    | surplusKeywords => simp [Parameter.isVariadic, hkind] at hp
    | _ => cases keywords.get? p.name <;> rfl
  have hrest : ∀ rest, filled [] (keywords.remove p.name) rest ps = filled [] keywords rest ps :=
    fun rest => filled_congr fun q hq => fillOne_remove (hps.name_ne hq)
  have hkind : p.kind ≠ .surplusKeywords := by
    rw [Parameter.isVariadic, Bool.or_eq_false_iff] at hp
    exact beq_eq_false_iff_ne.mp hp.2
  rw [bindCall_nil_args, bindCall_nil_args, hunnamed, any_kind_cons hkind, filled_cons, hvalue,
    hrest]
  split
  · cases (keywords.get? p.name).or p.default <;> rfl
  · rfl

theorem bindCall_surplusKeywords (keywords : Table Value) (hp : p.kind = .surplusKeywords) :
    bindCall [p] ⟨[], keywords⟩ = some [(p.name, .map keywords)] := by
  have hunnamed : unnamed [p] keywords = keywords := by
    simp [unnamed, acceptsKeyword, hp]
  rw [bindCall_nil_args, hunnamed]
  simp [hp, filled, fillOne]

theorem bindCall_nil (vs : List Value) (keywords : Table Value) :
    bindCall [] ⟨vs, keywords⟩ = if vs.isEmpty && keywords.isEmpty then some [] else none := by
  have htake : takePositional [] vs = ([], vs, []) := by cases vs <;> rfl
  rw [bindCall_eq htake]
  cases vs <;> cases keywords <;> simp [overfull, unnamed, filled]

theorem bindCall_obeys : Obeys fun ps vs keywords => bindCall ps ⟨vs, keywords⟩ where
  nil := bindCall_nil
  surplus vs hps _ hp := bindCall_surplus vs hps hp
  surplusKeywords keywords _ hp := bindCall_surplusKeywords keywords hp
  refused v vs keywords hps hp := bindCall_refused v vs keywords hps hp
  positional v vs _ hkeywords hp := bindCall_positional v vs hkeywords hp
  named hps hkeywords hp := bindCall_named hps hkeywords hp

end Binding

end AspectAgent
