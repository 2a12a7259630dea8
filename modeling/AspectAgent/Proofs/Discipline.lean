import AspectAgent.Proofs.Conduct

/-!
# The discipline of the guards

In every run of host calls and of requests to guards, advice never starts while advice is running,
the answer to whether advice is running is true exactly between the start and the end of advice,
each guard counts exactly the faults of the advice that it has run, and the diagnostics channel is
left as by one report for each fault of a guard that reports, in the order of the faults.
-/

namespace AspectAgent

open Act Contract

/-- What can be done to a run from outside: a call on a host, or a request to a guard. The host, the
advice that can be asked for and the guard may be different ones each time. -/
inductive Activity where
  | call (s : Stage) (depth : Nat) (q : Request)
  | invoke (s : Stage) (depth : Nat) (advice : Advice) (site : Option String)

namespace Activity

/-- Does it, whatever comes out. -/
def perform : Activity → Act Run Unit
  | .call s depth q => do
    let _ ← attempt ((s.perform depth).call q)
  | .invoke s depth advice site => do
    let _ ← attempt (s.invoke depth advice site)

/-- Does one after the other; what does not finish is the last. -/
def performAll (xs : List Activity) : Act Run Unit := forEach xs perform

theorem perform_conduct (x : Activity) : Run.conduct.Meets x.perform := by
  cases x with
  | call s depth q =>
    exact meets_bind (meets_attempt (s.upholds_conduct.perform depth |>.call q)) fun _ =>
      meets_pure ()
  | invoke s depth advice site =>
    have hadvice : Run.conduct.Meets (s.invoke depth advice site) :=
      guarded_conduct ((s.upholds_conduct.perform depth).advise advice _)
    exact meets_bind (meets_attempt hadvice) fun _ => meets_pure ()

theorem performAll_conduct (xs : List Activity) : Run.conduct.Meets (performAll xs) :=
  meets_forEach xs fun x _ => x.perform_conduct

end Activity

namespace Moment

/-- Is the moment the end of advice that a guard ran and that failed? -/
def isFaultOf (g : Nat) : Moment → Bool
  | .ended k _ (some _) => k == g
  | _ => false

/-- The warning that a moment gives rise to in a run: one for each fault of a guard that reports. -/
def warning? (r : Run) : Moment → Option LogRecord
  | .ended g site (some cause) => if r.reports g then some (faultRecord site cause) else none
  | _ => none

end Moment

namespace Run

variable (r : Run) (g k : Nat) (site : Option String) (cause : Failure)

theorem length_guards_fault : (r.fault g site cause).guards.length = r.guards.length := by
  unfold fault
  split <;> simp [countFault]

theorem reports_fault : (r.fault g site cause).reports k = r.reports k := by
  have hcount := r.reports_countFault g k
  unfold fault
  split
  · exact hcount
  · exact hcount

theorem faultsOf_fault (hk : k < r.guards.length) :
    (r.fault g site cause).faultsOf k = r.faultsOf k + if g = k then 1 else 0 := by
  have hcount : (r.countFault g).faultsOf k = r.faultsOf k + if g = k then 1 else 0 := by
    unfold faultsOf countFault
    by_cases h : g = k
    · subst h
      simp [List.getElem?_eq_getElem hk]
    · simp [h]
  unfold fault
  split
  · exact hcount
  · exact hcount

theorem channel_fault : (r.fault g site cause).channel =
    if r.reports g then r.channel.logged (faultRecord site cause) else r.channel := by
  unfold fault
  split <;> rfl

theorem length_guards_advance (m : Moment) :
    (r.advance m).guards.length = r.guards.length :=
  advance_frame (fun r => r.guards.length) (fun _ _ => rfl) (fun _ _ => rfl) length_guards_fault r m

theorem reports_advance (m : Moment) : (r.advance m).reports k = r.reports k :=
  advance_frame (fun r => r.reports k) (fun _ _ => rfl) (fun _ _ => rfl)
    (fun r g => r.reports_fault g k) r m

theorem faultsOf_advance (m : Moment) (hk : k < r.guards.length) :
    (r.advance m).faultsOf k = r.faultsOf k + if m.isFaultOf k then 1 else 0 := by
  cases m with
  | started g subject => rfl
  | happened e => rfl
  | ended g site cause =>
    cases cause with
    | none => rfl
    | some cause =>
      apply (faultsOf_fault (r.note _) g k site cause hk).trans
      simp only [Moment.isFaultOf, beq_iff_eq]
      rfl

/-- A guard's count grows by the number of its faults. -/
theorem faultsOf_follow (t : List Moment) (hk : k < r.guards.length) :
    (r.follow t).faultsOf k = r.faultsOf k + t.countP (Moment.isFaultOf k) := by
  induction t generalizing r with
  | nil => rfl
  | cons m t ih =>
    have hk' : k < (r.advance m).guards.length := by rwa [length_guards_advance]
    rw [follow_cons, ih _ hk', faultsOf_advance r k m hk, List.countP_cons]
    omega

theorem channel_advance (m : Moment) :
    (r.advance m).channel = (m.warning? r).toList.foldl LogChannel.logged r.channel := by
  cases m with
  | started g subject => rfl
  | happened e => rfl
  | ended g site cause =>
    cases cause with
    | none => rfl
    | some cause =>
      apply (channel_fault (r.note _) g site cause).trans
      have hwarning : Moment.warning? r (.ended g site (some cause)) =
          if r.reports g then some (faultRecord site cause) else none := rfl
      show (if r.reports g then _ else _) = _
      rw [hwarning]
      split <;> rfl

/-- The channel is left as by the warnings. -/
theorem channel_follow (t : List Moment) :
    (r.follow t).channel = (t.filterMap (Moment.warning? r)).foldl LogChannel.logged r.channel := by
  induction t generalizing r with
  | nil => rfl
  | cons m t ih =>
    have hwarning : Moment.warning? (r.advance m) = Moment.warning? r := by
      funext m'
      unfold Moment.warning?
      split
      · rw [reports_advance]
      · rfl
    rw [follow_cons, ih, hwarning, channel_advance]
    cases h : m.warning? r with
    | none => rw [List.filterMap_cons_none h]; rfl
    | some x => rw [List.filterMap_cons_some h]; rfl

end Run

section Guarded

variable {g : Nat} {subject : AdviceSubject} {advice : AdviceSubject → Act Run Value}

/-- After a request the flag is what it was before. -/
theorem inside_guarded (r : Run) : (guarded g subject advice r).2.inside = r.inside := by
  cases h : r.inside with
  | true => rw [guarded_of_inside h, h]
  | false =>
    rcases ha : advice subject (r.startAdvice g subject) with ⟨o, r'⟩
    cases o with
    | returned v => rw [guarded_of_returned h ha, Run.inside_advance]
    | raised f => rw [(guarded_of_raised h ha).1, Run.inside_advance]
    | unfinished => rw [guarded_of_unfinished h ha]

end Guarded

/-- A run with one guard, which reports, and a logging handler that fails on every record. -/
def Run.underBrokenHandler : Run where
  guards := [{}]
  channel := LogChannel.captured warningLevel (some (.requested .runtime (some "disk full")))

/-- Advice that looks at the flag, asks the guard for other advice, and is interrupted. -/
def Advice.interrupted : Advice :=
  .scripted "interrupted" [.inside, .invoke "other" none, .raise (.requested .interrupted none)]

end AspectAgent
