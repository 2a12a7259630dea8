import AspectAgent.Host.Binding
import Mathlib.Data.List.Basic

/-!
# The rules of binding

The arguments of a call are given to the parameters one after the other, by a rule for each kind of
parameter: `assign?` says which. Both bindings look at the parameters all at once or in phases, but
come to these rules as long as the parameters are those of a function and no keyword names a
positional-only one.
-/

namespace AspectAgent

namespace ParameterKind

/-- Which kinds of parameters can stand before which. -/
def precedes : ParameterKind → ParameterKind → Bool
  | .positionalOnly, _ => true
  | .positional, k => k != .positionalOnly
  | .surplus, k | .keywordOnly, k => k == .keywordOnly || k == .surplusKeywords
  | .surplusKeywords, _ => false

end ParameterKind

/-- Parameters as a function can have them: their names differ, their kinds come in order, at most
one takes the surplus of a sort, and those that do have no default. -/
structure Parameter.WellFormed (ps : List Parameter) : Prop where
  names : (ps.map Parameter.name).Nodup
  order : ps.Pairwise fun p q => p.kind.precedes q.kind = true
  bare : ∀ p ∈ ps, p.isVariadic = true → p.default = none

namespace Parameter

/-- No keyword names a positional-only parameter. -/
def NoneHidden (ps : List Parameter) (keywords : Table Value) : Prop :=
  ∀ p ∈ ps, p.kind = .positionalOnly → keywords.has p.name = false

variable {p : Parameter} {ps : List Parameter} {keywords : Table Value}

namespace WellFormed

theorem tail (h : WellFormed (p :: ps)) : WellFormed ps where
  names := (List.nodup_cons.mp h.names).2
  order := (List.pairwise_cons.mp h.order).2
  bare := fun q hq => h.bare q (List.mem_cons_of_mem p hq)

theorem drop (h : WellFormed ps) (n : Nat) : WellFormed (ps.drop n) where
  names := List.map_drop ▸ h.names.sublist (List.drop_sublist n _)
  order := h.order.sublist (List.drop_sublist n ps)
  bare := fun q hq => h.bare q (List.mem_of_mem_drop hq)

theorem not_mem (h : WellFormed (p :: ps)) : p.name ∉ ps.map Parameter.name :=
  (List.nodup_cons.mp h.names).1

theorem name_ne (h : WellFormed (p :: ps)) {q : Parameter} (hq : q ∈ ps) : p.name ≠ q.name :=
  fun heq => h.not_mem (heq ▸ List.mem_map_of_mem hq)

theorem precedes (h : WellFormed (p :: ps)) {q : Parameter} (hq : q ∈ ps) :
    p.kind.precedes q.kind = true := (List.pairwise_cons.mp h.order).1 q hq

/-- Nothing after a parameter that positional arguments cannot pass takes the surplus of them. -/
theorem no_surplus (h : WellFormed (p :: ps)) (hp : p.kind ≠ .positionalOnly)
    (hp' : p.kind ≠ .positional) : (ps.any fun q => q.kind == .surplus) = false := by
  refine List.any_eq_false.mpr fun q hq => ?_
  have hprecedes := h.precedes hq
  revert hprecedes hp hp'
  cases p.kind <;> cases q.kind <;> simp [ParameterKind.precedes]

theorem eq_nil_of_surplusKeywords (h : WellFormed (p :: ps)) (hp : p.kind = .surplusKeywords) :
    ps = [] := by
  cases ps with
  | nil => rfl
  | cons q ps =>
    have hprecedes := h.precedes List.mem_cons_self
    rw [hp] at hprecedes
    exact absurd hprecedes Bool.false_ne_true

end WellFormed

theorem NoneHidden.tail (h : NoneHidden (p :: ps) keywords) : NoneHidden ps keywords :=
  fun q hq => h q (List.mem_cons_of_mem p hq)

theorem NoneHidden.remove (h : NoneHidden ps keywords) (k : String) :
    NoneHidden ps (keywords.remove k) := by
  intro q hq hkind
  have hq' := Table.get?_of_not_has (h q hq hkind)
  simp [Table.has, Table.get?_remove, hq']

theorem isVariadic_iff : p.isVariadic = true ↔ p.kind = .surplus ∨ p.kind = .surplusKeywords := by
  simp [isVariadic]

end Parameter

namespace Binding

/-- What each parameter is given, one parameter after the other; none if the arguments do not fit.
Positional arguments are used up from the left, then keywords and defaults count. The two kinds of
variadic parameters take all that is left of their sort. -/
def assign? : List Parameter → List Value → Table Value → Option (Table Value)
  | [], vs, keywords => if vs.isEmpty && keywords.isEmpty then some [] else none
  | p :: ps, vs, keywords =>
    if p.kind = .surplus then (assign? ps [] keywords).map ((p.name, .tuple vs) :: ·)
    else if p.kind = .surplusKeywords then
      if vs.isEmpty then (assign? ps [] []).map ((p.name, .map keywords) :: ·) else none
    else
      match vs with
      | v :: vs =>
        if p.kind = .keywordOnly ∨ keywords.has p.name then none
        else (assign? ps vs keywords).map ((p.name, v) :: ·)
      | [] =>
        ((keywords.get? p.name).or p.default).bind fun v =>
          (assign? ps [] (keywords.remove p.name)).map ((p.name, v) :: ·)

section Rules

variable {p : Parameter} {ps : List Parameter} {keywords : Table Value} {v : Value}
  {vs : List Value}

theorem assign?_surplus (hp : p.kind = .surplus) : assign? (p :: ps) vs keywords =
    (assign? ps [] keywords).map ((p.name, .tuple vs) :: ·) := by
  cases vs <;> rw [assign?, if_pos hp]

theorem assign?_surplusKeywords (hp : p.kind = .surplusKeywords) :
    assign? (p :: ps) [] keywords = (assign? ps [] []).map ((p.name, .map keywords) :: ·) := by
  simp [assign?, hp]

theorem assign?_refused (hp : p.kind = .keywordOnly ∨ p.kind = .surplusKeywords) :
    assign? (p :: ps) (v :: vs) keywords = none := by
  rw [assign?]
  rcases hp with hp | hp <;> simp [hp]

theorem assign?_positional (hp : p.kind = .positionalOnly ∨ p.kind = .positional) :
    assign? (p :: ps) (v :: vs) keywords =
      if keywords.has p.name then none
      else (assign? ps vs keywords).map ((p.name, v) :: ·) := by
  rw [assign?]
  rcases hp with hp | hp <;> simp [hp]

theorem assign?_named (hp : p.isVariadic = false) : assign? (p :: ps) [] keywords =
    ((keywords.get? p.name).or p.default).bind fun v =>
      (assign? ps [] (keywords.remove p.name)).map ((p.name, v) :: ·) := by
  have hkind : ¬ (p.kind = .surplus ∨ p.kind = .surplusKeywords) := by
    rw [← Parameter.isVariadic_iff, hp]
    exact Bool.false_ne_true
  rw [not_or] at hkind
  rw [assign?, if_neg hkind.1, if_neg hkind.2]

/-- Which rule it is that gives a parameter its value, the positional arguments that are left being
known. -/
inductive Turn (p : Parameter) : List Value → Prop where
  | surplus (vs : List Value) (hp : p.kind = .surplus) : Turn p vs
  | surplusKeywords (hp : p.kind = .surplusKeywords) : Turn p []
  | refused (v : Value) (vs : List Value) (hp : p.kind = .keywordOnly ∨ p.kind = .surplusKeywords) :
    Turn p (v :: vs)
  | positional (v : Value) (vs : List Value)
    (hp : p.kind = .positionalOnly ∨ p.kind = .positional) : Turn p (v :: vs)
  | named (hp : p.isVariadic = false) : Turn p []

theorem turn (p : Parameter) (vs : List Value) : Turn p vs := by
  cases vs with
  | nil =>
    cases hkind : p.kind with
    | surplus => exact .surplus [] hkind
    | surplusKeywords => exact .surplusKeywords hkind
    | _ => exact .named (by simp [Parameter.isVariadic, hkind])
  | cons v vs =>
    cases hkind : p.kind with
    | surplus => exact .surplus (v :: vs) hkind
    | surplusKeywords => exact .refused v vs (.inr hkind)
    | keywordOnly => exact .refused v vs (.inl hkind)
    | positionalOnly => exact .positional v vs (.inl hkind)
    | positional => exact .positional v vs (.inr hkind)

/-- Every parameter is given a value, in order. -/
theorem keys_assign? {ps : List Parameter} {vs : List Value} {keywords bound : Table Value}
    (h : assign? ps vs keywords = some bound) : bound.keys = ps.map Parameter.name := by
  induction ps generalizing vs keywords bound with
  | nil =>
    rw [assign?] at h
    split at h
    · cases h
      rfl
    · cases h
  | cons p ps ih =>
    have given : ∀ {v vs' keywords'}, (assign? ps vs' keywords').map ((p.name, v) :: ·) =
        some bound → bound.keys = (p :: ps).map Parameter.name := by
      intro v vs' keywords' hgiven
      obtain ⟨rest, hrest, rfl⟩ := Option.map_eq_some_iff.mp hgiven
      exact congrArg (p.name :: ·) (ih hrest)
    cases turn p vs with
    | surplus vs hp => exact given (assign?_surplus hp ▸ h)
    | surplusKeywords hp => exact given (assign?_surplusKeywords hp ▸ h)
    | refused v vs hp => cases (assign?_refused hp).symm.trans h
    | positional v vs hp =>
      rw [assign?_positional hp] at h
      split at h
      · cases h
      · exact given h
    | named hp =>
      rw [assign?_named hp] at h
      obtain ⟨v, -, hv⟩ := Option.bind_eq_some_iff.mp h
      exact given hv

end Rules

/-- A binding that goes by the rules, on the parameters of a function and keywords that name no
positional-only one. -/
structure Obeys (bind : List Parameter → List Value → Table Value → Option (Table Value)) :
    Prop where
  nil : ∀ vs keywords, bind [] vs keywords =
    if vs.isEmpty && keywords.isEmpty then some [] else none
  surplus : ∀ {p ps keywords} vs, Parameter.WellFormed (p :: ps) →
    Parameter.NoneHidden (p :: ps) keywords → p.kind = .surplus →
      bind (p :: ps) vs keywords = (bind ps [] keywords).map ((p.name, .tuple vs) :: ·)
  surplusKeywords : ∀ {p} keywords, Parameter.WellFormed [p] → p.kind = .surplusKeywords →
    bind [p] [] keywords = some [(p.name, .map keywords)]
  refused : ∀ {p ps} v vs keywords, Parameter.WellFormed (p :: ps) →
    p.kind = .keywordOnly ∨ p.kind = .surplusKeywords → bind (p :: ps) (v :: vs) keywords = none
  positional : ∀ {p ps keywords} v vs, Parameter.WellFormed (p :: ps) →
    Parameter.NoneHidden (p :: ps) keywords → p.kind = .positionalOnly ∨ p.kind = .positional →
      bind (p :: ps) (v :: vs) keywords =
        if keywords.has p.name then none else (bind ps vs keywords).map ((p.name, v) :: ·)
  named : ∀ {p ps keywords}, Parameter.WellFormed (p :: ps) →
    Parameter.NoneHidden (p :: ps) keywords → p.isVariadic = false →
      bind (p :: ps) [] keywords = ((keywords.get? p.name).or p.default).bind fun v =>
        (bind ps [] (keywords.remove p.name)).map ((p.name, v) :: ·)

theorem Obeys.eq_assign? {bind : List Parameter → List Value → Table Value → Option (Table Value)}
    (h : Obeys bind) {ps : List Parameter} {keywords : Table Value} (vs : List Value)
    (hps : Parameter.WellFormed ps) (hkeywords : Parameter.NoneHidden ps keywords) :
    bind ps vs keywords = assign? ps vs keywords := by
  induction ps generalizing vs keywords with
  | nil => rw [h.nil, assign?]
  | cons p ps ih =>
    cases turn p vs with
    | surplus vs hp =>
      rw [h.surplus vs hps hkeywords hp, assign?_surplus hp, ih [] hps.tail hkeywords.tail]
    | surplusKeywords hp =>
      obtain rfl := hps.eq_nil_of_surplusKeywords hp
      rw [h.surplusKeywords keywords hps hp, assign?_surplusKeywords hp]
      rfl
    | refused v vs hp => rw [h.refused v vs keywords hps hp, assign?_refused hp]
    | positional v vs hp =>
      rw [h.positional v vs hps hkeywords hp, assign?_positional hp, ih vs hps.tail hkeywords.tail]
    | named hp =>
      rw [h.named hps hkeywords hp, assign?_named hp]
      exact congrArg _ (funext fun v => by
        rw [ih [] hps.tail (hkeywords.tail.remove p.name)])

end Binding

end AspectAgent
