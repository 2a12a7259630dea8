import AspectAgent.Proofs.Conduct
import AspectAgent.Proofs.Members
import Mathlib.Data.List.Induction

/-!
# The schedule of advice

The layers around a method are closures within closures; the schedule is what they come to. A call
that is made while no advice is running fires the entry advice, the last woven first, then runs the
method, and then fires the exit advice for what the method ended with, the first woven first. It
ends as the method ended. What any piece of advice does, fails with or leaves in the log changes
neither the order nor the outcome.
-/

namespace AspectAgent

open Act Contract

/-- Requests to guards, and the subjects of the advice. -/
abbrev Firings := List (Nat × AdviceSubject)

namespace Target

/-- The advice of layers that runs before a call, in order. -/
def entryFirings (t : Target) (layers : List Layer) : Firings :=
  (Layer.entries layers).map fun l => (l.guard, .call (l.entryView t))

/-- The advice of layers that runs after a call that ended so, in order. -/
def exitFirings (t : Target) (result : Except Failure Value) (layers : List Layer) : Firings :=
  (Layer.exits result layers).map fun l => (l.guard, .call (l.exitView t result))

end Target

/-- The moments in which guards run advice, exactly these one after the other. -/
inductive Fired : Firings → List Moment → Prop
  | nil : Fired [] []
  | cons {g subject firings inner fault t} (hi : WithinAdvice inner) (ht : Fired firings t) :
      Fired ((g, subject) :: firings)
        (.started g subject :: (inner ++ .ended g subject.site fault :: t))

namespace Stage

variable (nested : Nested) (s : Stage) (t : Target)

/-- The method between its layers, as one sequence. -/
def scheduled (layers : List Layer) : Act Run Value := do
  forEach (Layer.entries layers) (s.fireOn nested (Layer.entryView t))
  let result ← attempt (t.enter nested)
  forEach (Layer.exits result layers) (s.fireOn nested (Layer.exitView t result))
  Act.ofExcept result

end Stage

section Fire

variable {nested : Nested} {s : Stage} {r : Run}

theorem fireOn_conduct (hn : nested.Meets Run.conduct) (view : Layer → AdviceCall) (l : Layer) :
    Run.conduct.Meets (s.fireOn nested view l) :=
  meets_bind (guarded_conduct (Run.admits_conduct.advice hn _ _)) fun _ => meets_pure ()

theorem enter_conduct (hn : nested.Meets Run.conduct) (t : Target) :
    Run.conduct.Meets (t.enter nested) := hn.enter t fun r => r.conduct_occur _ rfl

/-- A layer that is asked outside advice runs its advice, which may not finish. -/
theorem fireOn_atRest (hn : nested.Meets Run.conduct) (view : Layer → AdviceCall) (l : Layer)
    (hr : r.AtRest) :
    (∃ inner fault, WithinAdvice inner ∧ s.fireOn nested view l r = (.returned (),
      r.follow (.started l.guard (.call (view l)) ::
        (inner ++ [.ended l.guard (AdviceSubject.call (view l)).site fault])))) ∨
    ∃ r', s.fireOn nested view l r = (.unfinished, r') := by
  let advice := fun subject => l.site.descriptor.advice.run nested s subject
  have hadvice : Run.conduct.Meets (advice (.call (view l))) := Run.admits_conduct.advice hn _ _
  unfold Stage.fireOn
  rcases guarded_atRest (g := l.guard) hr hadvice with
    ⟨_, inner, fault, hinner, hfire⟩ | ⟨r', hfire⟩
  · exact .inl ⟨inner, fault, hinner, bind_of_returned hfire⟩
  · exact .inr ⟨r', by rw [bind_apply, hfire]⟩

/-- Layers that are asked outside advice run their advice in turn, unless some of it does not
finish. -/
theorem fireAll_atRest (hn : nested.Meets Run.conduct) (view : Layer → AdviceCall)
    (layers : List Layer) (hr : r.AtRest) :
    (∃ t, Fired (layers.map fun l => (l.guard, .call (view l))) t ∧
      forEach layers (s.fireOn nested view) r = (.returned (), r.follow t)) ∨
    ∃ r', forEach layers (s.fireOn nested view) r = (.unfinished, r') := by
  induction layers generalizing r with
  | nil => exact .inl ⟨[], .nil, rfl⟩
  | cons l layers ih =>
    rw [forEach_cons]
    rcases fireOn_atRest hn view l hr with ⟨inner, fault, hinner, hfire⟩ | ⟨r', hfire⟩
    · rw [bind_of_returned hfire]
      rcases ih (hr.follow _) with ⟨t, ht, hrest⟩ | ⟨r', hrest⟩
      · have hfired : Fired ((l.guard, .call (view l)) ::
            layers.map fun l => (l.guard, .call (view l)))
            (.started l.guard (.call (view l)) ::
              (inner ++ .ended l.guard (AdviceSubject.call (view l)).site fault :: t)) :=
          .cons hinner ht
        refine .inl ⟨_, hfired, hrest.trans ?_⟩
        rw [← Run.follow_append]
        simp
      · exact .inr ⟨r', hrest⟩
    · exact .inr ⟨r', by rw [bind_apply, hfire]⟩

theorem fireAll_ne_raised (hn : nested.Meets Run.conduct) (view : Layer → AdviceCall)
    (layers : List Layer) (hr : r.AtRest) (f : Failure) :
    (forEach layers (s.fireOn nested view) r).1 ≠ .raised f := by
  rcases fireAll_atRest hn view layers hr with ⟨t, -, h⟩ | ⟨r', h⟩ <;> rw [h] <;> exact nofun

variable {t : Target} {l : Layer} {layers : List Layer}

theorem scheduled_append_of_entry (h : l.site.descriptor.phase = .onEntry) :
    s.scheduled nested t (layers ++ [l]) =
      s.fireOn nested (Layer.entryView t) l >>= fun _ => s.scheduled nested t layers := by
  have hentries : Layer.entries (layers ++ [l]) = l :: Layer.entries layers := by
    simp [Layer.entries, h]
  have hexits : ∀ result, Layer.exits result (layers ++ [l]) = Layer.exits result layers := by
    simp [Layer.exits, h, Phase.firesAfter]
  unfold Stage.scheduled
  rw [hentries, forEach_cons, bind_assoc]
  simp only [hexits]

theorem scheduled_append_of_exit (hn : nested.Meets Run.conduct)
    (h : l.site.descriptor.phase ≠ .onEntry) (hr : r.AtRest) :
    s.scheduled nested t (layers ++ [l]) r =
      (attempt (s.scheduled nested t layers) >>= fun result =>
        forEach (Layer.exits result [l]) (s.fireOn nested (Layer.exitView t result)) >>= fun _ =>
          Act.ofExcept result) r := by
  have hentries : Layer.entries (layers ++ [l]) = Layer.entries layers := by
    simp [Layer.entries, h]
  have hexits : ∀ result, Layer.exits result (layers ++ [l]) =
      Layer.exits result layers ++ Layer.exits result [l] := fun _ => List.filter_append _ _
  -- advice raises nothing, so that what is attempted is the method alone
  have hattempt : attempt (s.scheduled nested t layers) r = (do
      forEach (Layer.entries layers) (s.fireOn nested (Layer.entryView t))
      let result ← attempt (t.enter nested)
      forEach (Layer.exits result layers) (s.fireOn nested (Layer.exitView t result))
      give result : Act Run (Except Failure Value)) r := by
    refine attempt_bind (fireAll_ne_raised hn _ _ hr) fun _ r₁ h₁ => ?_
    have hr₁ : r₁.AtRest := hr.after (meets_forEach _ fun l _ => fireOn_conduct hn _ l) h₁
    refine attempt_bind (attempt_ne_raised _ _) fun result r₂ h₂ => ?_
    have hr₂ : r₂.AtRest := hr₁.after (meets_attempt (enter_conduct hn t)) h₂
    refine attempt_bind (fireAll_ne_raised hn _ _ hr₂) fun _ r₃ _ => ?_
    rw [attempt_ofExcept]
  rw [bind_apply, hattempt, ← bind_apply]
  rw [Stage.scheduled, hentries]
  simp only [hexits, forEach_append, bind_assoc]
  rfl

/-- The layers around a method come to their schedule. -/
theorem foldl_around_apply (hn : nested.Meets Run.conduct) (t : Target) (layers : List Layer)
    (hr : r.AtRest) :
    layers.foldl (Layer.around nested s t) (t.enter nested) r = s.scheduled nested t layers r := by
  -- the last layer is the outermost
  induction layers using List.reverseRecOn generalizing r with
  | nil =>
    show t.enter nested r = (attempt (t.enter nested) >>= fun result => Act.ofExcept result) r
    rw [attempt_bind_ofExcept]
  | append_singleton layers l ih =>
    rw [List.foldl_append, List.foldl_cons, List.foldl_nil]
    by_cases hphase : l.site.descriptor.phase = .onEntry
    · rw [around_of_entry hphase, scheduled_append_of_entry hphase]
      rcases fireOn_atRest hn (Layer.entryView t) l hr with ⟨inner, fault, -, hfire⟩ | ⟨r', hfire⟩
      · rw [bind_of_returned hfire, bind_of_returned hfire]
        exact ih (hr.follow _)
      · rw [bind_apply, bind_apply, hfire]
    · rw [around_of_exit hphase, scheduled_append_of_exit hn hphase hr]
      have hattempt : attempt (layers.foldl (Layer.around nested s t) (t.enter nested)) r =
          attempt (s.scheduled nested t layers) r := by
        unfold attempt
        rw [ih hr]
      rw [bind_apply, hattempt, ← bind_apply]

theorem layered_apply (hn : nested.Meets Run.conduct) (h : Host) (f : FoundFunction) (a : Arguments)
    (hr : r.AtRest) :
    (f.target h a).layered nested s r =
      s.scheduled nested (f.target h a) f.member.layers r := by
  rw [Target.layered, f.target_member]
  exact foldl_around_apply hn _ _ hr

/-- A call that comes to an end, stage by stage. -/
theorem scheduled_stages (hn : nested.Meets Run.conduct) (hr : r.AtRest) {o : Outcome Value}
    {r' : Run} (h : s.scheduled nested t layers r = (o, r')) (ho : o.isFinished = true) :
    ∃ before result r₂,
      Fired (t.entryFirings layers) before ∧
      t.enter nested (r.follow before) = (.ofExcept result, r₂) ∧
      r₂.AtRest ∧
      forEach (Layer.exits result layers) (s.fireOn nested (Layer.exitView t result)) r₂ =
        (.returned (), r') ∧
      o = .ofExcept result := by
  have unfinished : ∀ r'', (.unfinished, r'') ≠ (o, r') := by
    rintro r'' ⟨⟩
    exact Bool.false_ne_true ho
  unfold Stage.scheduled at h
  rcases fireAll_atRest (s := s) hn (Layer.entryView t) (Layer.entries layers) hr with
    ⟨before, hbefore, hentries⟩ | ⟨r'', hentries⟩
  · rw [bind_of_returned hentries] at h
    rcases attempt_cases (t.enter nested) (r.follow before) with
      ⟨result, r₂, henter, hattempt⟩ | ⟨r'', -, hattempt⟩
    · have hr₂ : r₂.AtRest := (hr.follow before).after (enter_conduct hn t) henter
      rw [bind_of_returned hattempt] at h
      rcases fireAll_atRest (s := s) hn (Layer.exitView t result) (Layer.exits result layers) hr₂
        with ⟨after, -, hexits⟩ | ⟨r'', hexits⟩
      · rw [bind_of_returned hexits, ofExcept_apply] at h
        cases h
        exact ⟨before, result, r₂, hbefore, henter, hr₂, hexits, rfl⟩
      · rw [bind_apply, hexits] at h
        exact absurd h (unfinished r'')
    · rw [bind_apply, hattempt] at h
      exact absurd h (unfinished r'')
  · rw [bind_apply, hentries] at h
    exact absurd h (unfinished r'')

/-- A call that comes to an end, moment by moment. -/
theorem scheduled_moments (hn : nested.Meets Run.conduct) (hr : r.AtRest) {o : Outcome Value}
    {r' : Run} (h : s.scheduled nested t layers r = (o, r')) (ho : o.isFinished = true) :
    ∃ before result r₂ after,
      Fired (t.entryFirings layers) before ∧
      t.enter nested (r.follow before) = (.ofExcept result, r₂) ∧
      Fired (t.exitFirings result layers) after ∧
      o = .ofExcept result ∧ r' = r₂.follow after := by
  obtain ⟨before, result, r₂, hbefore, henter, hr₂, hexits, hresult⟩ :=
    scheduled_stages hn hr h ho
  rcases fireAll_atRest (s := s) hn (Layer.exitView t result) (Layer.exits result layers) hr₂
    with ⟨after, hafter, hfired⟩ | ⟨r'', hfired⟩
  · cases hexits.symm.trans hfired
    exact ⟨before, result, r₂, after, hbefore, henter, hafter, hresult, rfl⟩
  · cases hexits.symm.trans hfired

end Fire

/-- A run outside advice that comes to an end keeps to the schedule: whatever starts a method, at
whatever depth, runs its advice on schedule around it. All other advice is what a guard was asked
for directly. -/
inductive Stage.Scheduled (s : Stage) : Run → Run → Prop
  | refl (r) : Scheduled s r r
  | trans {r r' r''} (h : Scheduled s r r') (h' : Scheduled s r' r'') : Scheduled s r r''
  | occur {r e} (hb : e.isBody = false) (he : e.AgreesWith false) : Scheduled s r (r.occur e)
  | asked {r g site t} (ht : Fired [(g, .bare site)] t) : Scheduled s r (r.follow t)
  | property {r r' f n o} (hf : s.host.DeclaresProperty f)
      (henter : (f.target s.host {}).enter (s.perform n) r = (o, r'))
      (hbody : Scheduled s ((f.target s.host {}).begun r) r') : Scheduled s r r'
  | method {r r' f a n before result after} (hf : s.host.DeclaresMethod f)
      (hbefore : Fired ((f.target s.host a).entryFirings f.member.layers) before)
      (henter : (f.target s.host a).enter (s.perform n) (r.follow before) = (.ofExcept result, r'))
      (hbody : Scheduled s ((f.target s.host a).begun (r.follow before)) r')
      (hafter : Fired ((f.target s.host a).exitFirings result f.member.layers) after) :
      Scheduled s r (r'.follow after)

namespace Stage

/-- The contract of keeping to the schedule. -/
def schedule (s : Stage) : Contract Run where
  allows finished r r' := Run.conduct.allows finished r r' ∧
    (finished = true → r.AtRest → s.Scheduled r r')
  refl finished r := ⟨Run.conduct.refl finished r, fun _ _ => .refl r⟩
  trans h h' := ⟨Run.conduct.trans h.1 h'.1, fun hb hr =>
    .trans (h.2 rfl hr) (h'.2 hb (hr.of_conduct h.1))⟩

variable {s : Stage}

theorem begun_atRest {r : Run} (t : Target) (hr : r.AtRest) : (t.begun r).AtRest := by
  unfold Target.begun
  split
  · exact hr
  · exact hr.of_conduct (r.conduct_occur _ rfl)

/-- What a method does after it has been entered keeps to the schedule. -/
theorem begun_scheduled {nested : Nested} (hn : nested.Meets s.schedule) {t : Target}
    {r r' : Run} {o : Outcome Value} (hr : r.AtRest) (h : t.enter nested r = (o, r'))
    (ho : o.isFinished = true) : s.Scheduled (t.begun r) r' := by
  have hbegun := (hn.begun t r).2
  rw [h] at hbegun
  exact hbegun ho (begun_atRest t hr)

theorem admits_schedule : Run.Admits s.schedule where
  occur r e hb he := ⟨r.conduct_occur e he, fun _ hr => .occur hb (hr.outside ▸ he)⟩
  asked g site x hx r := by
    have hconduct : Run.conduct.Meets (x (.bare site)) := fun r => (hx r).1
    refine ⟨guarded_conduct hconduct r, fun ho hr => ?_⟩
    rcases guarded_atRest (g := g) hr hconduct with ⟨_, inner, fault, hinner, h⟩ | ⟨r', h⟩
    · rw [h]
      exact .asked (.cons hinner .nil)
    · rw [h] at ho
      exact absurd ho Bool.false_ne_true

theorem upholds_schedule (s : Stage) : s.Upholds s.schedule where
  toAdmits := admits_schedule
  method n hn f a hf r := by
    have hconduct := s.upholds_conduct.perform n
    refine ⟨s.upholds_conduct.method n hconduct f a hf r, fun ho hr => ?_⟩
    have happly := layered_apply (s := s) hconduct s.host f a hr
    rcases hcall : (f.target s.host a).layered (s.perform n) s r with ⟨o, r'⟩
    rw [hcall] at ho happly
    obtain ⟨before, result, r₂, after, hbefore, henter, hafter, rfl, rfl⟩ :=
      scheduled_moments hconduct hr happly.symm ho
    have hbody := begun_scheduled hn (hr.follow before) henter (Outcome.isFinished_ofExcept result)
    exact .method hf hbefore henter hbody hafter
  property n hn f hf r := by
    have hconduct := s.upholds_conduct.perform n
    refine ⟨s.upholds_conduct.property n hconduct f hf r, fun ho hr => ?_⟩
    exact .property hf rfl (begun_scheduled hn hr rfl ho)

end Stage

namespace FoundFunction

variable (h : Host) (f : FoundFunction) (a : Arguments)

theorem target_of_receiverless (hf : f.kind = .receiverless) :
    (f.target h a).receiver = none ∧ (f.target h a).arguments = a := by
  rw [target, hf]
  exact ⟨rfl, rfl⟩

/-- The receiver of a class method is the class, also when it is looked up on an instance. -/
theorem target_of_onClass (hf : f.kind = .onClass) {c : ClassRef}
    (hc : f.subject = .instanceOf c ∨ f.subject = .classOf c) :
    (f.target h a).receiver = some (.classOf c) ∧ (f.target h a).arguments = a := by
  rw [target, hf]
  rcases hc with hc | hc <;> rw [hc] <;> exact ⟨rfl, rfl⟩

theorem target_of_instance (hf : f.kind = .onInstance) {c : ClassRef}
    (hc : f.subject = .instanceOf c) :
    (f.target h a).receiver = some (.instanceOf c) ∧ (f.target h a).arguments = a := by
  rw [target, hf, hc]
  exact ⟨rfl, rfl⟩

/-- A method that takes an instance and is called on the class has its first argument as receiver.
-/
theorem target_of_class (hf : f.kind = .onInstance) {c : ClassRef} (hc : f.subject = .classOf c)
    {v : Value} {vs : List Value} (ha : a.positional = v :: vs)
    (hv : h.isInstance v c.index = true) :
    (f.target h a).receiver = some v ∧ (f.target h a).arguments = { a with positional := vs } := by
  rw [target, hf, hc, ha]
  dsimp only
  rw [hv]
  exact ⟨rfl, rfl⟩

end FoundFunction

/-- A layer of scripted advice on the method of the counting class. -/
def Layer.onCountdown (id : String) (phase : Phase) (actions : List AdviceAction) : Layer :=
  ⟨⟨"app.Countdown", "step", .onCountdown id phase actions⟩, 0⟩

end AspectAgent
