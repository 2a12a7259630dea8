import AspectAgent.Metrics.Collection

/-!
# Measuring

What comes of a reading where values are recorded as floating-point numbers. A usable number other
than minus one is a measurement, unless it is an integer that is too large for such a number: this
the recorder refuses. Whatever else a reading comes to is passed over.
-/

namespace AspectAgent

namespace Value

/-- The measurement that a reading gives: a number that is neither minus one nor a not-a-number, as
a floating-point number. -/
def measured? (v : Value) : Option Binary64 :=
  match v with
  | .int n => if n = -1 then none else Binary64.ofInt? n
  | .float x => if x.isNaN || v.isUnavailable then none else some x
  | _ => none

/-- An integer that is too large for a floating-point number. -/
def isTooLarge : Value → Bool
  | .int n => (Binary64.ofInt? n).isNone
  | _ => false

theorem isUnavailable_int (n : Int) : (Value.int n).isUnavailable = decide (n = -1) := by
  show (LinePoint.ofInt n == LinePoint.ofInt (-1)) = decide (n = -1)
  rw [Bool.eq_iff_iff, beq_iff_eq, decide_eq_true_iff]
  exact LinePoint.ofInt_inj

theorem isUnavailable_of_isTooLarge {v : Value} (h : v.isTooLarge = true) :
    v.isUnavailable = false := by
  cases v with
  | int n =>
    rw [isUnavailable_int, decide_eq_false_iff_not]
    rintro rfl
    exact absurd h (by decide +kernel)
  | _ => exact absurd h Bool.false_ne_true

theorem usable_isOrdinary {v : Value} {f : Failure} (h : v.usable = .error f) :
    f.isOrdinary = true := by
  unfold usable at h
  split at h
  · cases h
  · split at h
    · cases h
      rfl
    · cases h
  · cases h
    rfl

theorem eq_of_usable {v w : Value} (h : v.usable = .ok w) : w = v := by
  unfold usable at h
  split at h
  · cases h
    rfl
  · split at h
    · cases h
    · cases h
      rfl
  · cases h

theorem isNaN_of_usable {x : Binary64} {w : Value} (h : (Value.float x).usable = .ok w) :
    x.isNaN = false := by
  cases hx : x.isNaN with
  | true => simp [usable, hx] at h
  | false => rfl

theorem isNaN_of_not_usable {x : Binary64} {f : Failure} (h : (Value.float x).usable = .error f) :
    x.isNaN = true := by
  cases hx : x.isNaN with
  | true => rfl
  | false => simp [usable, hx] at h

theorem measured?_int (n : Int) :
    (Value.int n).measured? = if n = -1 then none else Binary64.ofInt? n := rfl

theorem measured?_of_not_usable {v : Value} {f : Failure} (h : v.usable = .error f) :
    v.measured? = none ∧ v.isTooLarge = false := by
  cases v with
  | int n => cases h
  | float x => exact ⟨by simp [measured?, isNaN_of_not_usable h], rfl⟩
  | _ => exact ⟨rfl, rfl⟩

theorem measured?_of_isUnavailable {v : Value} (h : v.isUnavailable = true) :
    v.measured? = none := by
  cases v with
  | int n =>
    rw [isUnavailable_int, decide_eq_true_iff] at h
    exact if_pos h
  | float x => simp [measured?, h]
  | _ => rfl

theorem toBinary64_int (n : Int) :
    (Value.int n).toBinary64 = Failure.ifNone .integerTooLarge (Binary64.ofInt? n) := rfl

theorem toBinary64_of_isTooLarge {v : Value} (h : v.isTooLarge = true) :
    v.toBinary64 = .error .integerTooLarge ∧ v.measured? = none := by
  cases v with
  | int n =>
    have hnone : Binary64.ofInt? n = none := Option.isNone_iff_eq_none.mp h
    constructor
    · rw [toBinary64_int, hnone, Failure.ifNone]
    · rw [measured?_int, hnone, ite_self]
  | _ => exact absurd h Bool.false_ne_true

theorem toBinary64_of_available {v w : Value} (h : v.usable = .ok w)
    (havailable : v.isUnavailable = false) (hsmall : v.isTooLarge = false) :
    ∃ x, v.toBinary64 = .ok x ∧ v.measured? = some x := by
  cases v with
  | int n =>
    rw [isUnavailable_int, decide_eq_false_iff_not] at havailable
    have hsome : (Binary64.ofInt? n).isNone = false := hsmall
    obtain ⟨x, hx⟩ := Option.isSome_iff_exists.mp (Option.isNone_eq_false_iff.mp hsome)
    refine ⟨x, ?_, ?_⟩
    · rw [toBinary64_int, hx, Failure.ifNone]
    · rw [measured?_int, if_neg havailable, hx]
  | float x => exact ⟨x, rfl, by simp [measured?, isNaN_of_usable h, havailable]⟩
  | _ => cases h

end Value

namespace Sampling

/-- What a reading came to is too large to be recorded. -/
def isTooLarge : Except Failure Value → Bool
  | .ok v => v.isTooLarge
  | .error _ => false

/-- What is recorded of an entity with some attributes. -/
def recordOf (attributes : AttributeSet) (reading : Except Failure Value) : List Measurement :=
  match reading with
  | .ok v => (v.measured?.map fun x => ⟨.float x, attributes.entries⟩).toList
  | .error _ => []

end Sampling

namespace Recorder

variable {σ : Type}

theorem asNumber_of_ok {v : Value} {x : Binary64} (h : v.toBinary64 = .ok x)
    (labels : Table Value) (ms : List Measurement) (st : σ) :
    asNumber v labels (ms, st) = (.returned (), ms ++ [⟨.float x, labels⟩], st) := by
  rw [asNumber, h]
  rfl

theorem asNumber_of_error {v : Value} {f : Failure} (h : v.toBinary64 = .error f)
    (labels : Table Value) (ms : List Measurement) (st : σ) :
    asNumber v labels (ms, st) = (.raised f, ms, st) := by
  rw [asNumber, h]
  rfl

end Recorder

namespace Sampling

variable {σ : Type}

/-- What sampling does with a reading. -/
def sampleOne (sink : Sink (Recorder σ)) (attributes : AttributeSet) (o : Except Failure Value) :
    Act (Recorder σ) Unit :=
  match o >>= Value.usable with
  | .ok v => if !v.isUnavailable then sink v attributes.entries else .give ()
  | .error _ => .give ()

theorem sampleOne_ok (sink : Sink (Recorder σ)) (attributes : AttributeSet) (v : Value) :
    sampleOne sink attributes (.ok v) =
      match v.usable with
      | .ok w => if !w.isUnavailable then sink w attributes.entries else .give ()
      | .error _ => .give () := rfl

theorem sampleOne_asNumber (attributes : AttributeSet) (o : Except Failure Value)
    (ms : List Measurement) (st : σ) : sampleOne Recorder.asNumber attributes o (ms, st) =
      if isTooLarge o then (.raised .integerTooLarge, ms, st)
      else (.returned (), ms ++ recordOf attributes o, st) := by
  cases o with
  | error f =>
    show (Outcome.returned (), ms, st) = (.returned (), ms ++ [], st)
    rw [List.append_nil]
  | ok v =>
    rw [sampleOne_ok]
    cases hv : v.usable with
    | error f =>
      obtain ⟨hnone, hsmall⟩ := Value.measured?_of_not_usable hv
      simp [isTooLarge, recordOf, hnone, hsmall]
    | ok w =>
      obtain rfl := Value.eq_of_usable hv
      cases havailable : w.isUnavailable with
      | true =>
        have hnone := Value.measured?_of_isUnavailable havailable
        have hsmall : w.isTooLarge = false := by
          cases hsize : w.isTooLarge with
          | true => rw [← havailable, Value.isUnavailable_of_isTooLarge hsize]
          | false => rfl
        simp [isTooLarge, recordOf, havailable, hnone, hsmall]
      | false =>
        cases hsize : w.isTooLarge with
        | true =>
          obtain ⟨hrefused, -⟩ := Value.toBinary64_of_isTooLarge hsize
          simp [isTooLarge, havailable, hsize, Recorder.asNumber_of_error hrefused]
        | false =>
          obtain ⟨x, hx, hmeasured⟩ := Value.toBinary64_of_available hv havailable hsize
          simp [isTooLarge, recordOf, havailable, hsize, hmeasured, Recorder.asNumber_of_ok hx]

end Sampling

end AspectAgent
