import AspectAgent.Host.Binding
import AspectAgent.Matcher
import Mathlib.Logic.Basic

/-!
# The numbering of arguments

Matchers and advice number the parameters of a method independently. A description leaves out the
variadic parameters first and the receiver then, the view of a call does it the other way round. The
two agree unless the receiver goes into a variadic parameter: a description then counts the first
numbered parameter as the receiver, and is one behind. Where they agree, a matcher for the parameter
at an index tests the declared type of the very parameter whose value advice finds at the index.
-/

namespace AspectAgent

namespace Signature

variable (s : Signature) (kind : MethodKind)

/-- The receiver, if the method has one, goes into a parameter that is not variadic. -/
def ReceiverIsNumbered : Prop :=
  kind ≠ .receiverless → ∀ p, s.parameters.head? = some p → p.isVariadic = false

theorem numbered_cons_of_variadic {p : Parameter} (ps : List Parameter) (h : p.isVariadic = true) :
    numbered (p :: ps) = numbered ps := by
  simp [numbered, h]

theorem numbered_cons_of_not_variadic {p : Parameter} (ps : List Parameter)
    (h : p.isVariadic = false) : numbered (p :: ps) = p :: numbered ps := by
  simp [numbered, h]

variable {s kind}

theorem described_of_receiver (h : kind ≠ .receiverless) :
    s.described kind = (numbered s.parameters).drop 1 := by
  cases kind with
  | onInstance => rfl
  | onClass => rfl
  | receiverless => exact absurd rfl h

theorem withoutReceiver_of_receiver (h : kind ≠ .receiverless) :
    s.withoutReceiver kind = s.parameters.drop 1 := by
  cases kind with
  | onInstance => rfl
  | onClass => rfl
  | receiverless => exact absurd rfl h

theorem described_eq_numbered (h : s.ReceiverIsNumbered kind) :
    s.described kind = numbered (s.withoutReceiver kind) := by
  by_cases hkind : kind = .receiverless
  · subst hkind
    rfl
  · rw [described_of_receiver hkind, withoutReceiver_of_receiver hkind]
    cases hps : s.parameters with
    | nil => rfl
    | cons p ps =>
      have hp : p.isVariadic = false := h hkind p (by rw [hps, List.head?_cons])
      rw [numbered_cons_of_not_variadic ps hp, List.drop_one, List.drop_one, List.tail_cons,
        List.tail_cons]

/-- A description is one behind if the receiver goes into a variadic parameter. -/
theorem described_of_absorbed (h : ¬ s.ReceiverIsNumbered kind) :
    s.described kind = (numbered (s.withoutReceiver kind)).drop 1 ∧
      numbered (s.withoutReceiver kind) = numbered s.parameters := by
  simp only [ReceiverIsNumbered, not_forall, Bool.not_eq_false] at h
  obtain ⟨hkind, p, hhead, hp⟩ := h
  obtain ⟨ps, hps⟩ := List.head?_eq_some_iff.mp hhead
  have hnumbered : numbered (s.withoutReceiver kind) = numbered s.parameters := by
    rw [withoutReceiver_of_receiver hkind, hps, numbered_cons_of_variadic ps hp, List.drop_one,
      List.tail_cons]
  constructor
  · rw [described_of_receiver hkind, hnumbered]
  · exact hnumbered

theorem described_eq_numbered_iff : s.described kind = numbered (s.withoutReceiver kind) ↔
    s.ReceiverIsNumbered kind ∨ numbered s.parameters = [] := by
  constructor
  · intro h
    by_cases hreceiver : s.ReceiverIsNumbered kind
    · exact .inl hreceiver
    · obtain ⟨hbehind, hall⟩ := described_of_absorbed hreceiver
      have hlength := congrArg List.length (hbehind.symm.trans h)
      rw [hall, List.length_drop] at hlength
      refine .inr (List.eq_nil_of_length_eq_zero ?_)
      omega
  · rintro (h | h)
    · exact described_eq_numbered h
    · have hsublist : (s.withoutReceiver kind).Sublist s.parameters := by
        cases kind with
        | receiverless => exact .refl _
        | onInstance => exact List.drop_sublist 1 _
        | onClass => exact List.drop_sublist 1 _
      have hseen : numbered (s.withoutReceiver kind) = [] :=
        List.sublist_nil.mp (h ▸ hsublist.filter _)
      rw [hseen]
      cases kind with
      | receiverless => exact h
      | onInstance => rw [described, h, List.drop_nil]; exact nofun
      | onClass => rw [described, h, List.drop_nil]; exact nofun

end Signature

namespace Matcher

/-- What a matcher says of the declared type of a parameter. A parameter without one never matches.
-/
def testDeclared (m : Matcher) : Option String → Verdict
  | some typeName => m.test (.type ⟨typeName⟩)
  | none => .of false

theorem test_takesArgument {s : Signature} {kind : MethodKind} {i : Nat} {p : Parameter}
    (hp : (s.described kind)[i]? = some p) (name : String) (m : Matcher) :
    (takesArgument i m).test (.method (s.describe name kind)) =
      m.testDeclared (s.declaredType p) := by
  have htype : ((s.described kind).map s.declaredType)[i]? = some (s.declaredType p) := by
    rw [List.getElem?_map, hp, Option.map_some]
  simp only [test, Subject.parameterTypes, Signature.describe, htype]
  cases s.declaredType p with
  | none => rfl
  | some typeName => rfl

end Matcher

namespace Binding

theorem numberedName_of_getElem? {ps : List Parameter} {i : Nat} {p : Parameter}
    (hp : (Signature.numbered ps)[i]? = some p) (hi : (i : Int) < Int.pow 2 63) :
    numberedName ps i = .ok p.name := by
  have hwide : (decide ((i : Int) < -(Int.pow 2 63)) || decide (Int.pow 2 63 ≤ (i : Int))) =
      false := by
    have hpow : (0 : Int) ≤ Int.pow 2 63 := by decide
    rw [Bool.or_eq_false_iff, decide_eq_false_iff_not, decide_eq_false_iff_not]
    omega
  have hsign : ¬ (i : Int) < 0 := by omega
  unfold numberedName
  simp only [hwide, Bool.false_eq_true, if_false, if_neg hsign, Int.toNat_natCast, hp]

theorem seenArgument_of_getElem? {ps : List Parameter} {i : Nat} {p : Parameter}
    (hp : (Signature.numbered ps)[i]? = some p) (hi : (i : Int) < Int.pow 2 63) (a : Arguments) :
    seenArgument ps a i =
      bindSeen ps a >>= fun bound => Failure.ifNone (.missingKey p.name) (bound.get? p.name) := by
  unfold seenArgument
  rw [numberedName_of_getElem? hp hi]
  show (bindSeen ps a >>= fun bound => _) = _
  refine congrArg (bindSeen ps a >>= ·) (funext fun bound => ?_)
  cases bound.get? p.name with
  | none => rfl
  | some v => rfl

end Binding

open Binding in
/-- **Argument numbering.** The parameters that a description shows are those that advice numbers,
in the same order, just if the receiver does not go into a variadic parameter or nothing is
numbered; a description is one behind otherwise. Where they agree, a matcher for the parameter at an
index tests the declared type of the parameter whose value advice gets at the index, which must be
one of sixty-four bits. -/
theorem argument_numbering (s : Signature) (kind : MethodKind) :
    (s.described kind = Signature.numbered (s.withoutReceiver kind) ↔
      s.ReceiverIsNumbered kind ∨ Signature.numbered s.parameters = []) ∧
    (¬ s.ReceiverIsNumbered kind →
      s.described kind = (Signature.numbered (s.withoutReceiver kind)).drop 1) ∧
    (s.ReceiverIsNumbered kind ∨ Signature.numbered s.parameters = [] →
      ∀ (i : Nat) p, (s.described kind)[i]? = some p → (i : Int) < Int.pow 2 63 →
        (∀ name m, (Matcher.takesArgument i m).test (.method (s.describe name kind)) =
          m.testDeclared (s.declaredType p)) ∧
        ∀ a, seenArgument (s.withoutReceiver kind) a i =
          bindSeen (s.withoutReceiver kind) a >>= fun bound =>
            Failure.ifNone (.missingKey p.name) (bound.get? p.name)) := by
  refine ⟨Signature.described_eq_numbered_iff,
    fun h => (Signature.described_of_absorbed h).1, fun h i p hp hi => ⟨?_, ?_⟩⟩
  · exact Matcher.test_takesArgument hp
  · have hseen := hp
    rw [Signature.described_eq_numbered_iff.mpr h] at hseen
    exact seenArgument_of_getElem? hseen hi

/-- A method that takes its receiver by its first parameter, an ordinary one, before one that takes
surplus arguments. -/
def Signature.receiving : Signature where
  parameters := [{ name := "self" }, { name := "rest", kind := .surplus },
    { name := "key", kind := .keywordOnly, annotation := some (.ofClass "builtins" "int") }]

theorem argument_numbering_of_receiving :
    let s := Signature.receiving
    s.ReceiverIsNumbered .onInstance ∧
      (Matcher.takesArgument 0 (.named "int" none)).test (.method (s.describe "m" .onInstance)) =
        .of true ∧
      Binding.seenArgument (s.withoutReceiver .onInstance) { keywords := [("key", .int 7)] } 0 =
        .ok (.int 7) := by
  intro s
  have hreceiver : s.ReceiverIsNumbered .onInstance := by
    intro _ p hp
    cases hp
    rfl
  obtain ⟨htest, hvalue⟩ := (argument_numbering s .onInstance).2.2 (.inl hreceiver) 0 _ rfl
    (by decide)
  exact ⟨hreceiver, htest "m" (.named "int" none), hvalue _⟩

/-- A method whose receiver goes into the parameter that takes surplus arguments. -/
def Signature.absorbing : Signature where
  parameters := [{ name := "all", kind := .surplus },
    { name := "key", kind := .keywordOnly, annotation := some (.ofClass "builtins" "int") },
    { name := "text", kind := .keywordOnly, annotation := some (.ofClass "builtins" "str") }]

/-- The numberings can disagree: the matcher for the parameter at index zero sees the type of one
parameter, and advice gets the value of another. -/
theorem argument_numbering_of_absorbing :
    let s := Signature.absorbing
    s.described .onInstance ≠ Signature.numbered (s.withoutReceiver .onInstance) ∧
      (s.describe "m" .onInstance).parameterTypes = [some "str"] ∧
      (Signature.numbered (s.withoutReceiver .onInstance)).map Parameter.name = ["key", "text"] ∧
      Binding.seenArgument (s.withoutReceiver .onInstance)
        { keywords := [("key", .int 7), ("text", .text "x")] } 0 = .ok (.int 7) := by
  intro s
  refine ⟨fun h => ?_, rfl, rfl, rfl⟩
  have hlength : (1 : Nat) = 2 := congrArg List.length h
  exact absurd hlength (by decide)

end AspectAgent
