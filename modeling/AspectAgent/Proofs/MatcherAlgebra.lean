import Mathlib.Data.List.Induction
import AspectAgent.Matcher

/-!
# The algebra of matchers

The test of a matcher may return any value. A conjunction or a disjunction asks its left operand
first, stops if the truth value of what this returns decides, and hands on what the deciding operand
returned as it is. Only a negation and the last judgement make a truth value of it, and a test that
fails ends the whole evaluation. So the laws of truth values have to hold of evaluations that stop,
fail and keep their values: of the result and of the tests that are run on the way to it. The hint
at a module follows rules of its own, which obey most of the laws too.
-/

namespace AspectAgent

@[simp] theorem Value.truthy_bool (b : Bool) : (Value.bool b).truthy = b := rfl

/-- What the evaluation of a matcher did: the tests that are no compositions of others which it ran,
each with what it was put to, in order, and the value it came to, which nobody has judged yet. -/
structure Evaluation where
  tests : List (Matcher × Subject)
  outcome : Except Failure Value

namespace Evaluation

def of (v : Value) : Evaluation := ⟨[], .ok v⟩

/-- Goes on with another evaluation unless this one failed. -/
def andThen (e : Evaluation) (next : Value → Evaluation) : Evaluation :=
  match e.outcome with
  | .ok v => ⟨e.tests ++ (next v).tests, (next v).outcome⟩
  | .error f => ⟨e.tests, .error f⟩

variable {e e' : Evaluation} {next next' : Value → Evaluation}

@[simp] theorem of_andThen (v : Value) : (of v).andThen next = next v := by
  simp [of, andThen]

theorem andThen_of_ok {v : Value} (h : e.outcome = .ok v) :
    e.andThen next = ⟨e.tests ++ (next v).tests, (next v).outcome⟩ := by
  simp [andThen, h]

theorem andThen_of_error {f : Failure} (h : e.outcome = .error f) : e.andThen next = e := by
  simp only [andThen, h]
  rw [← h]

theorem andThen_assoc : (e.andThen next).andThen next' =
    e.andThen fun v => (next v).andThen next' := by
  cases he : e.outcome with
  | error f => rw [andThen_of_error he, andThen_of_error he, andThen_of_error he]
  | ok v =>
    rw [andThen_of_ok he, andThen_of_ok he]
    cases hv : (next v).outcome with
    | error f => simp [andThen, hv]
    | ok w => simp [andThen, hv]

/-- Two evaluations that ran the same tests and are judged alike. -/
def Alike (e e' : Evaluation) : Prop :=
  e.tests = e'.tests ∧ e.outcome.map Value.truthy = e'.outcome.map Value.truthy

theorem Alike.andThen (h : e.Alike e')
    (hnext : ∀ v w, v.truthy = w.truthy → (next v).Alike (next' w)) :
    (e.andThen next).Alike (e'.andThen next') := by
  obtain ⟨htests, houtcome⟩ := h
  cases he : e.outcome with
  | error f =>
    cases he' : e'.outcome with
    | error g =>
      rw [andThen_of_error he, andThen_of_error he']
      exact ⟨htests, houtcome⟩
    | ok w =>
      rw [he, he'] at houtcome
      cases houtcome
  | ok v =>
    cases he' : e'.outcome with
    | error g =>
      rw [he, he'] at houtcome
      cases houtcome
    | ok w =>
      rw [he, he'] at houtcome
      obtain ⟨hrest, hlast⟩ := hnext v w (Except.ok.inj houtcome)
      rw [andThen_of_ok he, andThen_of_ok he', htests, hrest]
      exact ⟨rfl, hlast⟩

end Evaluation

namespace Matcher

/-- The label by which a custom test shows in a trace. -/
def customLabel? : Matcher → Option String
  | .custom text _ _ => some text
  | _ => none

/-- The evaluation of a matcher, which judges a value only where it has to. -/
def evaluate : Matcher → Subject → Evaluation
  | .and left right, s =>
    (left.evaluate s).andThen fun v => if v.truthy then right.evaluate s else .of v
  | .or left right, s =>
    (left.evaluate s).andThen fun v => if v.truthy then .of v else right.evaluate s
  | .not operand, s => (operand.evaluate s).andThen fun v => .of (.bool !v.truthy)
  | .takesArgument index type, s =>
    match s.parameterTypes[index]? with
    | some (some typeName) =>
      let inner := type.evaluate (.type ⟨typeName⟩)
      ⟨(.takesArgument index type, s) :: inner.tests, inner.outcome.map fun v => .bool v.truthy⟩
    | _ => ⟨[(.takesArgument index type, s)], .ok (.bool false)⟩
  | .named name hint, s => ⟨[(.named name hint, s)], .ok (.bool (s.name? == some name))⟩
  | .takesArguments count, s =>
    ⟨[(.takesArguments count, s)], .ok (.bool ((s.parameterTypes.length : Int) == count))⟩
  | .custom text hint run, s => ⟨[(.custom text hint run, s)], run s⟩

section Connectives

variable (a b : Matcher) (s : Subject)

theorem evaluate_and : (and a b).evaluate s =
    (a.evaluate s).andThen fun v => if v.truthy then b.evaluate s else .of v := rfl

theorem evaluate_or : (or a b).evaluate s =
    (a.evaluate s).andThen fun v => if v.truthy then .of v else b.evaluate s := rfl

theorem evaluate_not : (not a).evaluate s =
    (a.evaluate s).andThen fun v => .of (.bool !v.truthy) := rfl

theorem moduleHint_and : (and a b).moduleHint =
    if isTelling a.moduleHint then a.moduleHint else b.moduleHint := rfl

theorem moduleHint_or : (or a b).moduleHint =
    if a.moduleHint = b.moduleHint then a.moduleHint else none := rfl

end Connectives

/-- How an evaluation is judged: what shows of its tests, and the truth value of its end. -/
def judged (e : Evaluation) : Verdict :=
  ⟨e.tests.filterMap fun t => t.1.customLabel?, e.outcome.map Value.truthy⟩

theorem judged_andThen {e : Evaluation} {next : Value → Evaluation} {last : Bool → Verdict}
    (h : ∀ v, judged (next v) = last v.truthy) :
    judged (e.andThen next) = (judged e).andThen last := by
  cases he : e.outcome with
  | error f => simp [judged, Evaluation.andThen, Verdict.andThen, he, Except.map]
  | ok v =>
    simp only [judged, Evaluation.andThen, Verdict.andThen, he, Except.map, ← h]
    simp

/-- Judging the values on the way or at the end only comes to the same. -/
theorem test_eq_judged (m : Matcher) (s : Subject) : m.test s = judged (m.evaluate s) := by
  induction m generalizing s with
  | named name hint => simp [test, evaluate, judged, Verdict.of, customLabel?, Except.map]
  | takesArgument index type ih =>
    rcases hdeclared : s.parameterTypes[index]? with _ | _ | typeName
    · simp [test, evaluate, hdeclared, judged, customLabel?, Verdict.of, Except.map]
    · simp [test, evaluate, hdeclared, judged, customLabel?, Verdict.of, Except.map]
    · simp only [test, evaluate, hdeclared, ih]
      cases hinner : (type.evaluate (.type ⟨typeName⟩)).outcome with
      | error f => simp [judged, customLabel?, hinner, Except.map]
      | ok v => simp [judged, customLabel?, hinner, Except.map]
  | takesArguments count => simp [test, evaluate, judged, Verdict.of, customLabel?, Except.map]
  | and left right ihl ihr =>
    rw [test, evaluate, ihl, judged_andThen]
    intro v
    cases hv : v.truthy with
    | false => simp [judged, Evaluation.of, Verdict.of, Except.map, hv]
    | true => simp [ihr]
  | or left right ihl ihr =>
    rw [test, evaluate, ihl, judged_andThen]
    intro v
    cases hv : v.truthy with
    | false => simp [ihr]
    | true => simp [judged, Evaluation.of, Verdict.of, Except.map, hv]
  | not operand ih =>
    rw [test, evaluate, ih, judged_andThen]
    intro v
    simp [judged, Evaluation.of, Verdict.of, Except.map]
  | custom text hint run => simp [test, evaluate, judged, customLabel?]

/-! ## Matchers that agree -/

/-- Two matchers run the same tests on everything, and come to the same result or failure. -/
def Agree (m n : Matcher) : Prop :=
  ∀ s, (m.evaluate s).tests = (n.evaluate s).tests ∧ m.test s = n.test s

/-- Two matchers that agree and hint at the same module. -/
def Interchangeable (m n : Matcher) : Prop := Agree m n ∧ m.moduleHint = n.moduleHint

variable {a b c m n m' n' : Matcher}

theorem agree_iff : Agree m n ↔ ∀ s, (m.evaluate s).Alike (n.evaluate s) := by
  refine forall_congr' fun s => ?_
  rw [test_eq_judged, test_eq_judged]
  constructor
  · rintro ⟨htests, hjudged⟩
    exact ⟨htests, congrArg Verdict.outcome hjudged⟩
  · rintro ⟨htests, houtcome⟩
    exact ⟨htests, by rw [judged, judged, htests, houtcome]⟩

theorem agree_of_evaluate (h : ∀ s, m.evaluate s = n.evaluate s) : Agree m n :=
  agree_iff.mpr fun s => by rw [h s]; exact ⟨rfl, rfl⟩

theorem Agree.symm (h : Agree m n) : Agree n m := fun s => ⟨(h s).1.symm, (h s).2.symm⟩

theorem Agree.trans (h : Agree m n) (h' : Agree n m') : Agree m m' :=
  fun s => ⟨(h s).1.trans (h' s).1, (h s).2.trans (h' s).2⟩

theorem Agree.and (h : Agree m n) (h' : Agree m' n') : Agree (and m m') (and n n') := by
  refine agree_iff.mpr fun s => ?_
  rw [evaluate_and, evaluate_and]
  refine (agree_iff.mp h s).andThen fun v w hvw => ?_
  cases hv : v.truthy with
  | false => simp [Evaluation.Alike, Evaluation.of, Except.map, ← hvw, hv]
  | true => simpa [← hvw, hv] using agree_iff.mp h' s

theorem Agree.or (h : Agree m n) (h' : Agree m' n') : Agree (or m m') (or n n') := by
  refine agree_iff.mpr fun s => ?_
  rw [evaluate_or, evaluate_or]
  refine (agree_iff.mp h s).andThen fun v w hvw => ?_
  cases hv : v.truthy with
  | false => simpa [← hvw, hv] using agree_iff.mp h' s
  | true => simp [Evaluation.Alike, Evaluation.of, Except.map, ← hvw, hv]

theorem Agree.not (h : Agree m n) : Agree (not m) (not n) := by
  refine agree_iff.mpr fun s => ?_
  rw [evaluate_not, evaluate_not]
  refine (agree_iff.mp h s).andThen fun v w hvw => ?_
  rw [hvw]
  exact ⟨rfl, rfl⟩

theorem agree_and_assoc : Agree (and (and a b) c) (and a (and b c)) := by
  refine agree_of_evaluate fun s => ?_
  simp only [evaluate_and, Evaluation.andThen_assoc]
  congr 1
  funext v
  cases hv : v.truthy with
  | false => simp [hv]
  | true => simp

theorem agree_or_assoc : Agree (or (or a b) c) (or a (or b c)) := by
  refine agree_of_evaluate fun s => ?_
  simp only [evaluate_or, Evaluation.andThen_assoc]
  congr 1
  funext v
  cases hv : v.truthy with
  | false => simp
  | true => simp [hv]

/-- The value that a negation comes to is a truth value, whatever it is made of. -/
theorem agree_not_and : Agree (not (and a b)) (or (not a) (not b)) := by
  refine agree_of_evaluate fun s => ?_
  simp only [evaluate_and, evaluate_or, evaluate_not, Evaluation.andThen_assoc]
  congr 1
  funext v
  cases hv : v.truthy with
  | false => simp [hv]
  | true => simp

/-- A double negation forgets which value it is made of, but not its truth value. -/
theorem agree_not_not : Agree (not (not a)) a := by
  refine agree_iff.mpr fun s => ?_
  simp only [evaluate_not, Evaluation.andThen_assoc, Evaluation.of_andThen]
  cases h : (a.evaluate s).outcome with
  | error f =>
    rw [Evaluation.andThen_of_error h]
    exact ⟨rfl, rfl⟩
  | ok v =>
    rw [Evaluation.andThen_of_ok h]
    simp [Evaluation.Alike, Evaluation.of, Except.map, h]

theorem agree_not_or : Agree (not (or a b)) (and (not a) (not b)) :=
  have hinner : Agree (or a b) (or (not (not a)) (not (not b))) :=
    agree_not_not.symm.or agree_not_not.symm
  have houter : Agree (or (not (not a)) (not (not b))) (not (and (not a) (not b))) :=
    agree_not_and.symm
  (hinner.trans houter).not.trans agree_not_not

theorem moduleHint_and_assoc : (and (and a b) c).moduleHint = (and a (and b c)).moduleHint := by
  simp only [moduleHint_and]
  by_cases ha : isTelling a.moduleHint
  · simp [ha]
  · simp [ha]

theorem moduleHint_or_assoc : (or (or a b) c).moduleHint = (or a (or b c)).moduleHint := by
  simp only [moduleHint_or]
  by_cases hab : a.moduleHint = b.moduleHint
  · by_cases hbc : b.moduleHint = c.moduleHint
    · simp [hab, hbc]
    · simpa [hab, hbc] using Eq.symm
  · by_cases hbc : b.moduleHint = c.moduleHint
    · simp [hab, ← hbc]
    · simpa [hab, hbc] using Eq.symm

/-! ## The choice among several -/

variable {s : Subject}

theorem outcome_of_test {answer : Bool} (h : (m.test s).outcome = .ok answer) :
    ∃ v, (m.evaluate s).outcome = .ok v ∧ v.truthy = answer := by
  rw [test_eq_judged] at h
  cases hv : (m.evaluate s).outcome with
  | error f => simp [judged, hv, Except.map] at h
  | ok v => exact ⟨v, rfl, by simpa [judged, hv, Except.map] using h⟩

/-- If the left side of a disjunction comes to no, the right side is asked and decides. -/
theorem or_of_no (h : (m.test s).outcome = .ok false) :
    ((or m n).evaluate s).tests = (m.evaluate s).tests ++ (n.evaluate s).tests ∧
      (or m n).test s = ⟨(m.test s).trace ++ (n.test s).trace, (n.test s).outcome⟩ := by
  constructor
  · obtain ⟨v, hv, hfalsy⟩ := outcome_of_test h
    simp [evaluate_or, Evaluation.andThen_of_ok hv, hfalsy]
  · simp [test, Verdict.andThen, h]

/-- If it comes to yes or fails, the right side does not matter. -/
theorem or_of_decided (h : (m.test s).outcome ≠ .ok false) :
    ((or m n).evaluate s).tests = (m.evaluate s).tests ∧ (or m n).test s = m.test s := by
  have heval : (or m n).evaluate s = m.evaluate s := by
    rw [evaluate_or]
    cases hv : (m.evaluate s).outcome with
    | error f => exact Evaluation.andThen_of_error hv
    | ok v =>
      have htruthy : v.truthy = true := by
        simpa [test_eq_judged, judged, hv, Except.map] using h
      rw [Evaluation.andThen_of_ok hv, if_pos htruthy, Evaluation.of, ← hv, List.append_nil]
  rw [test_eq_judged, test_eq_judged, heval]
  exact ⟨rfl, rfl⟩

/-- A matcher that asks the given ones from the left, and stops at the first one that does not come
to no: those before it come to no, those after it are not asked, and if all come to no it is the
last one. What it comes to is the result, also if it fails. -/
def AsksInTurn (ms : List Matcher) (any : Matcher) : Prop :=
  ∀ s, ∃ (before : List Matcher) (decisive : Matcher) (after : List Matcher),
    ms = before ++ decisive :: after ∧
      (∀ m ∈ before, (m.test s).outcome = .ok false) ∧
      ((decisive.test s).outcome = .ok false → after = []) ∧
      (any.evaluate s).tests =
        (before.flatMap fun m => (m.evaluate s).tests) ++ (decisive.evaluate s).tests ∧
      any.test s = ⟨(before.flatMap fun m => (m.test s).trace) ++ (decisive.test s).trace,
        (decisive.test s).outcome⟩

/-- One more alternative is asked only if all before it come to no. -/
theorem AsksInTurn.concat {ms : List Matcher} (h : AsksInTurn ms m) :
    AsksInTurn (ms ++ [n]) (or m n) := by
  intro s
  obtain ⟨before, decisive, after, rfl, hbefore, hlast, htests, htest⟩ := h s
  have houtcome : (m.test s).outcome = (decisive.test s).outcome := by rw [htest]
  by_cases hno : (decisive.test s).outcome = .ok false
  · obtain ⟨htests', htest'⟩ := or_of_no (n := n) (houtcome.trans hno)
    cases hlast hno
    refine ⟨before ++ [decisive], n, [], rfl, ?_, fun _ => rfl, ?_, ?_⟩
    · intro x hx
      rcases List.mem_append.mp hx with hx | hx
      · exact hbefore x hx
      · exact List.mem_singleton.mp hx ▸ hno
    · simp [htests', htests]
    · simp [htest', htest]
  · obtain ⟨htests', htest'⟩ := or_of_decided (n := n) (houtcome ▸ hno)
    refine ⟨before, decisive, after ++ [n], by simp, hbefore, fun h => absurd h hno, ?_, ?_⟩
    · exact htests'.trans htests
    · exact htest'.trans htest

theorem asksInTurn_foldl (m : Matcher) (rest : List Matcher) :
    AsksInTurn (m :: rest) (rest.foldl or m) := by
  induction rest using List.reverseRecOn with
  | nil => exact fun s => ⟨[], m, [], rfl, by simp, fun _ => rfl, by simp, by simp⟩
  | append_singleton rest n ih =>
    rw [List.foldl_append]
    exact ih.concat

theorem moduleHint_foldl (m : Matcher) (rest : List Matcher) :
    (rest.foldl or m).moduleHint =
      if ∀ n ∈ rest, n.moduleHint = m.moduleHint then m.moduleHint else none := by
  induction rest using List.reverseRecOn with
  | nil => simp
  | append_singleton rest n ih =>
    rw [List.foldl_append, List.foldl_cons, List.foldl_nil, moduleHint_or, ih]
    by_cases hrest : ∀ x ∈ rest, x.moduleHint = m.moduleHint
    · have hall : m.moduleHint = n.moduleHint ↔
          ∀ x ∈ rest ++ [n], x.moduleHint = m.moduleHint := by
        rw [List.forall_mem_append, List.forall_mem_singleton, eq_comm]
        exact (and_iff_right hrest).symm
      rw [if_pos hrest]
      exact if_congr hall rfl rfl
    · have hall : ¬∀ x ∈ rest ++ [n], x.moduleHint = m.moduleHint :=
        fun h => hrest (List.forall_mem_append.mp h).1
      rw [if_neg hrest, if_neg hall]
      exact ite_self none

end Matcher

open Matcher in
/-- **The algebra of matchers.** Whatever matchers are composed, custom tests that return any value
or fail among them, the composition may be rearranged. Conjunction and disjunction are associative,
and a negation goes into either of them and exchanges it for the other. The rearranged matcher runs
the same tests in the same order on anything it is put to, comes to the same result or fails with
the same failure, and hints at the same module. A double negation agrees with what is negated, but
gives no hint. The choice among one or more matchers can always be made. It asks them from the left
and stops at the first that does not come to no, and it hints at a module if they all hint at this
one. -/
theorem matcher_algebra (a b c : Matcher) :
    Interchangeable (.and (.and a b) c) (.and a (.and b c)) ∧
      Interchangeable (.or (.or a b) c) (.or a (.or b c)) ∧
      Interchangeable (.not (.and a b)) (.or (.not a) (.not b)) ∧
      Interchangeable (.not (.or a b)) (.and (.not a) (.not b)) ∧
      Agree (.not (.not a)) a ∧
      ∀ (m : Matcher) (rest : List Matcher), ∃ any, anyOf? (m :: rest) = .ok any ∧
        AsksInTurn (m :: rest) any ∧
        any.moduleHint =
          if ∀ n ∈ rest, n.moduleHint = m.moduleHint then m.moduleHint else none :=
  ⟨⟨agree_and_assoc, moduleHint_and_assoc⟩, ⟨agree_or_assoc, moduleHint_or_assoc⟩,
    ⟨agree_not_and, rfl⟩, ⟨agree_not_or, rfl⟩, agree_not_not,
    fun m rest => ⟨_, rfl, asksInTurn_foldl m rest, moduleHint_foldl m rest⟩⟩

end AspectAgent
