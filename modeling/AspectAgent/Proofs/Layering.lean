import AspectAgent.Host.Call

/-!
# One layer of advice

A layer either runs its advice and then the rest of the call, or it attempts the rest, runs its
advice if its phase is for what the rest ended with, and ends in the same way.
-/

namespace AspectAgent

open Act

namespace Phase

/-- Does advice of the phase run after a call that ended so? -/
def firesAfter : Phase → Except Failure Value → Bool
  | .onEntry, _ => false
  | .onExit, .ok _ => true
  | .onExit, .error _ => false
  | .onExitIncludingFailure, _ => true

end Phase

namespace Layer

/-- The layers whose advice runs before a call, in the order in which it does. -/
def entries (layers : List Layer) : List Layer :=
  (layers.filter fun l => l.site.descriptor.phase = .onEntry).reverse

/-- The layers whose advice runs after a call that ended so, in the order in which it does. -/
def exits (result : Except Failure Value) (layers : List Layer) : List Layer :=
  layers.filter fun l => l.site.descriptor.phase.firesAfter result

/-- The view of a call that advice gets before it. -/
def entryView (t : Target) (l : Layer) : AdviceCall := l.view t .null none

/-- The view of a call that advice gets after it. -/
def exitView (t : Target) (result : Except Failure Value) (l : Layer) : AdviceCall :=
  match result with
  | .ok v => l.view t v none
  | .error f => l.view t .null (some f)

end Layer

section Around

variable {nested : Nested} {s : Stage} {t : Target} {l : Layer}

/-- Runs the advice of a layer on a view of the call. -/
def Stage.fireOn (nested : Nested) (s : Stage) (view : Layer → AdviceCall) (l : Layer) :
    Act Run Unit := do
  let _ ← guarded l.guard (.call (view l)) fun subject =>
    l.site.descriptor.advice.run nested s subject

theorem around_of_entry (h : l.site.descriptor.phase = .onEntry) (rest : Act Run Value) :
    l.around nested s t rest = s.fireOn nested (Layer.entryView t) l >>= fun _ => rest := by
  rw [Layer.around, h]
  rfl

theorem around_of_exit (h : l.site.descriptor.phase ≠ .onEntry) (rest : Act Run Value) :
    l.around nested s t rest = attempt rest >>= fun result =>
      forEach (Layer.exits result [l]) (s.fireOn nested (Layer.exitView t result)) >>= fun _ =>
        Act.ofExcept result := by
  have fires : ∀ result, l.site.descriptor.phase.firesAfter result = true →
      forEach (Layer.exits result [l]) (s.fireOn nested (Layer.exitView t result)) =
        s.fireOn nested (Layer.exitView t result) l := by
    intro result hfires
    have hexits : Layer.exits result [l] = [l] := by simp [Layer.exits, hfires]
    rw [hexits, forEach_singleton]
  have passes : ∀ result, l.site.descriptor.phase.firesAfter result = false →
      forEach (Layer.exits result [l]) (s.fireOn nested (Layer.exitView t result)) = give () := by
    intro result hpasses
    have hexits : Layer.exits result [l] = [] := by simp [Layer.exits, hpasses]
    rw [hexits]
    rfl
  unfold Layer.around
  cases hphase : l.site.descriptor.phase with
  | onEntry => exact absurd hphase h
  | onExit =>
    refine congrArg (attempt rest >>= ·) (funext fun result => ?_)
    cases result with
    | ok v => rw [fires _ (by rw [hphase]; rfl)]; rfl
    | error f => rw [passes _ (by rw [hphase]; rfl)]; rfl
  | onExitIncludingFailure =>
    refine congrArg (attempt rest >>= ·) (funext fun result => ?_)
    rw [fires result (by rw [hphase]; rfl)]
    cases result with
    | ok v => rfl
    | error f => rfl

end Around

end AspectAgent
