import AspectAgent.Proofs.HostSimulation
import AspectAgent.Proofs.Layering

/-!
# The depth of calls

The bound on the calls and the advice that can be open at a time only decides whether a run comes to
an end. With a higher bound a run that has come to an end comes to the same end, in the same state.
-/

namespace AspectAgent

open Act

section Advice

variable {s : Stage} {nested nested' : Nested}

theorem guarded_simulated {g : Nat} {subject : AdviceSubject}
    {advice advice' : AdviceSubject → Act Run Value}
    (h : Simulated Eq id (advice subject) (advice' subject)) :
    Simulated Eq id (guarded g subject advice) (guarded g subject advice') := by
  refine simulated_read fun before => ?_
  split
  · exact simulated_refl _
  · refine simulated_bind (simulated_refl _) fun _ => ?_
    refine simulated_bind (simulated_ensuring (simulated_attempt h) _) fun outcome => ?_
    exact simulated_refl _

theorem runActions_simulated (hcall : ∀ q, Simulated Eq id (nested.call q) (nested'.call q))
    (hadvise : ∀ a subject, Simulated Eq id (nested.advise a subject) (nested'.advise a subject))
    (id' : String) (actions : List AdviceAction) (subject : AdviceSubject) :
    Simulated Eq id (Advice.runActions nested s id' subject actions)
      (Advice.runActions nested' s id' subject actions) := by
  induction actions generalizing subject with
  | nil => exact simulated_refl _
  | cons action rest ih =>
    have noted : ∀ o, Simulated Eq id
        (Run.emit (.advice id' o) >>= fun _ => Advice.runActions nested s id' subject rest)
        (Run.emit (.advice id' o) >>= fun _ => Advice.runActions nested' s id' subject rest) :=
      fun o => simulated_bind (simulated_refl _) fun _ => ih subject
    cases action with
    | record => exact simulated_bind (simulated_refl _) fun c => noted _
    | arguments =>
      exact simulated_bind (simulated_refl _) fun c => simulated_bind (simulated_refl _) fun _ =>
        noted _
    | argument index =>
      exact simulated_bind (simulated_refl _) fun c => simulated_bind (simulated_refl _) fun _ =>
        noted _
    | inside => exact simulated_read fun r => noted _
    | faults => exact simulated_read fun r => noted _
    | raise f => exact simulated_refl _
    | give v => exact simulated_refl _
    | call method positional =>
      exact simulated_bind (simulated_refl _) fun c => simulated_bind (hcall _) fun _ => noted _
    | setResult v => exact ih _
    | setKeyword name v => exact simulated_refl _
    | invoke other site =>
      unfold Advice.runActions
      dsimp only
      split
      · exact simulated_refl _
      · exact simulated_bind (guarded_simulated (hadvise _ _)) fun _ => noted _

theorem advice_simulated (hcall : ∀ q, Simulated Eq id (nested.call q) (nested'.call q))
    (hadvise : ∀ a subject, Simulated Eq id (nested.advise a subject) (nested'.advise a subject))
    (a : Advice) (subject : AdviceSubject) :
    Simulated Eq id (a.run nested s subject) (a.run nested' s subject) := by
  cases a with
  | scripted id' actions => exact runActions_simulated hcall hadvise id' actions subject
  | spanNaming number policyFailure => exact simulated_refl _

theorem layered_simulated (hcall : ∀ q, Simulated Eq id (nested.call q) (nested'.call q))
    (hadvise : ∀ a subject, Simulated Eq id (nested.advise a subject) (nested'.advise a subject))
    (t : Target) (ht : Simulated Eq id (t.enter nested) (t.enter nested')) :
    Simulated Eq id (t.layered nested s) (t.layered nested' s) := by
  have fire : ∀ view (l : Layer),
      Simulated Eq id (s.fireOn nested view l) (s.fireOn nested' view l) := fun view l =>
    simulated_bind (guarded_simulated (advice_simulated hcall hadvise _ _)) fun _ =>
      simulated_refl _
  have around : ∀ (l : Layer) (x y : Act Run Value), Simulated Eq id x y →
      Simulated Eq id (l.around nested s t x) (l.around nested' s t y) := by
    intro l x y hxy
    by_cases hphase : l.site.descriptor.phase = .onEntry
    · rw [around_of_entry hphase, around_of_entry hphase]
      exact simulated_bind (fire _ l) fun _ => hxy
    · rw [around_of_exit hphase, around_of_exit hphase]
      refine simulated_bind (simulated_attempt hxy) fun result => ?_
      exact simulated_bind (simulated_forEach _ fun l _ => fire _ l) fun _ => simulated_refl _
  unfold Target.layered
  generalize t.enter nested = x at ht
  generalize t.enter nested' = y at ht
  induction t.member.layers generalizing x y with
  | nil => exact ht
  | cons l rest ih => exact ih _ _ (around l x y ht)

end Advice

namespace Stage

variable (s : Stage)

theorem perform_simulated (n : Nat) :
    (∀ q, Simulated Eq id ((s.perform n).call q) ((s.perform (n + 1)).call q)) ∧
      ∀ a subject, Simulated Eq id ((s.perform n).advise a subject)
        ((s.perform (n + 1)).advise a subject) := by
  induction n with
  | zero => exact ⟨fun _ => simulated_unfinished _, fun _ _ => simulated_unfinished _⟩
  | succ n ih =>
    have hmirrored : s.Mirrored Eq (fun _ => true) s (s.perform n) (s.perform (n + 1)) :=
      { host := s.host.keeping_true.symm
        body := fun r _ name h => h ▸ rfl
        call := ih.1
        layered := fun t ht => by
          have hsame : t.keeping (fun _ => true) = t := by
            rw [Target.keeping, HostClass.keeping_true, Member.keeping_true]
            rfl
          rw [hsame] at ht ⊢
          exact layered_simulated ih.1 ih.2 t ht }
    exact ⟨hmirrored.performWith, advice_simulated ih.1 ih.2⟩

/-- A call that has come to an end comes to the same end with a higher bound. -/
theorem perform_of_le {n m : Nat} (hnm : n ≤ m) {q : Request} {r : Run}
    (h : ((s.perform n).call q r).1.isFinished = true) :
    (s.perform m).call q r = (s.perform n).call q r := by
  induction hnm with
  | refl => rfl
  | @step m _ ih =>
    have hstep := ((s.perform_simulated m).1 q).eq (s := r)
    rw [ih] at hstep
    exact hstep h

end Stage

end AspectAgent
