import AspectAgent.Proofs.Depth
import AspectAgent.Proofs.Schedule
import AspectAgent.Proofs.Transforming
import AspectAgent.World

/-!
# Transparency

A host into which advice has been woven answers every call as if nothing had been woven, whatever
the advice does. Outside advice the same bodies run in the same order. The woven call is simulated
by the call on the host without any layers: the schedule of a method comes down to the method, since
advice that is fired outside advice neither raises nor begins a body outside advice.
-/

namespace AspectAgent

open Act Contract

/-- The method whose body began outside advice, if that is what happened. -/
def Event.outsideBody? : Event → Option String
  | .body method false => some method
  | _ => none

/-- The method whose body began outside advice at a moment. -/
def Moment.outsideBody? : Moment → Option String
  | .happened e => e.outsideBody?
  | _ => none

namespace Run

/-- The methods whose bodies have begun outside advice, in order. -/
def outsideBodies (r : Run) : List String := r.events.filterMap Event.outsideBody?

theorem outsideBodies_occur (r : Run) (e : Event) :
    (r.occur e).outsideBodies = r.outsideBodies ++ e.outsideBody?.toList := by
  have hevents : (r.occur e).events = r.events ++ [e] := rfl
  rw [outsideBodies, hevents, List.filterMap_append]
  cases h : e.outsideBody? with
  | none => rw [List.filterMap_cons_none h]; rfl
  | some name => rw [List.filterMap_cons_some h]; rfl

theorem outsideBodies_advance (r : Run) (m : Moment) :
    (r.advance m).outsideBodies = r.outsideBodies ++ m.outsideBody?.toList := by
  cases m with
  | started g subject => exact (List.append_nil _).symm
  | happened e => exact outsideBodies_occur r e
  | ended g site fault =>
    cases fault with
    | none => exact (List.append_nil _).symm
    | some cause =>
      have hevents : (r.advance (.ended g site (some cause))).events = r.events :=
        events_fault (r.note _) g site cause
      rw [outsideBodies, hevents]
      exact (List.append_nil _).symm

theorem outsideBodies_follow (r : Run) (t : List Moment) :
    (r.follow t).outsideBodies = r.outsideBodies ++ t.filterMap Moment.outsideBody? := by
  induction t generalizing r with
  | nil => exact (List.append_nil _).symm
  | cons m t ih =>
    rw [follow_cons, ih, outsideBodies_advance, List.append_assoc]
    cases h : m.outsideBody? with
    | none => rw [List.filterMap_cons_none h]; rfl
    | some name => rw [List.filterMap_cons_some h]; rfl

end Run

theorem WithinAdvice.outsideBodies {t : List Moment} (h : WithinAdvice t) :
    t.filterMap Moment.outsideBody? = [] := by
  refine List.filterMap_eq_nil_iff.mpr fun m hm => ?_
  obtain ⟨e, rfl, he⟩ := h m hm
  cases e with
  | body method during =>
    have hduring : during = true := he
    subst hduring
    rfl
  | advice id o => rfl
  | probe label => rfl
  | span context => rfl

/-- Advice that is fired begins no body outside advice. -/
theorem Fired.outsideBodies {firings : Firings} {t : List Moment} (h : Fired firings t) :
    t.filterMap Moment.outsideBody? = [] := by
  induction h with
  | nil => rfl
  | cons hi _ ih =>
    rw [List.filterMap_cons_none rfl, List.filterMap_append, hi.outsideBodies,
      List.filterMap_cons_none rfl, ih]
    rfl

/-- Two runs outside advice, of which the first may fire advice. Since they had begun the bodies
`before` and `before'` they have begun the same ones. -/
structure Run.Alongside (before before' : List String) (r r' : Run) : Prop where
  atRest : r.AtRest
  outside : r'.inside = false
  bodies : ∃ bodies, r.outsideBodies = before ++ bodies ∧ r'.outsideBodies = before' ++ bodies

section Simulation

variable {before before' : List String} {s s' : Stage} {nested nested' : Nested}

theorem Run.Alongside.body {r r' : Run} (h : r.Alongside before before' r') (name : String) :
    (r.occur (.body name r.inside)).Alongside before before' (r'.occur (.body name r'.inside)) := by
  obtain ⟨bodies, hr, hr'⟩ := h.bodies
  refine ⟨h.atRest.of_conduct (r.conduct_occur _ rfl), h.outside, bodies ++ [name], ?_, ?_⟩
  · rw [outsideBodies_occur, h.atRest.outside, hr, List.append_assoc]
    rfl
  · rw [outsideBodies_occur, h.outside, hr', List.append_assoc]
    rfl

/-- To fire advice is, for the host, to do nothing. -/
theorem fireAll_simulated (hn : nested.Meets Run.conduct) (view : Layer → AdviceCall)
    (layers : List Layer) : Simulated (Run.Alongside before before') id
      (forEach layers (s.fireOn nested view)) (give ()) := by
  intro r r' h hfinished
  rcases fireAll_atRest (s := s) hn view layers h.atRest with ⟨t, ht, hfire⟩ | ⟨r'', hfire⟩
  · rw [hfire]
    obtain ⟨bodies, hr, hr'⟩ := h.bodies
    refine ⟨r', rfl, h.atRest.follow t, h.outside, bodies, ?_, hr'⟩
    show (r.follow t).outsideBodies = _
    rw [Run.outsideBodies_follow, ht.outsideBodies, List.append_nil, hr]
  · rw [hfire] at hfinished
    exact absurd hfinished Bool.false_ne_true

/-- The schedule of a method comes down to the method. -/
theorem layered_simulated_enter (hn : nested.Meets Run.conduct) (t : Target)
    {enter' : Act Run Value}
    (ht : Simulated (Run.Alongside before before') id (t.enter nested) enter') :
    Simulated (Run.Alongside before before') id (t.layered nested s) enter' := by
  have hscheduled : Simulated (Run.Alongside before before') id
      (s.scheduled nested t t.member.layers) enter' := by
    have henter : enter' = (give () >>= fun _ => attempt enter' >>= fun result =>
        give () >>= fun _ => Act.ofExcept result) := (attempt_bind_ofExcept enter').symm
    rw [henter]
    refine simulated_bind (fireAll_simulated hn _ _) fun _ => ?_
    refine simulated_bind (simulated_attempt ht) fun result => ?_
    exact simulated_bind (fireAll_simulated hn _ _) fun _ => simulated_ofExcept _
  intro r r' h
  have happly : t.layered nested s r = s.scheduled nested t t.member.layers r :=
    foldl_around_apply hn t _ h.atRest
  have hat := hscheduled r r' h
  unfold SimulatedAt at hat ⊢
  rw [happly]
  exact hat

/-- Every call is simulated on the host without layers. -/
theorem Stage.perform_unwoven (hs : s'.host = s.host.unwoven) (n : Nat) (q : Request) :
    Simulated (Run.Alongside before before') id ((s.perform n).call q) ((s'.perform n).call q) := by
  induction n generalizing q with
  | zero => exact simulated_unfinished _
  | succ n ih =>
    have hmirrored : s.Mirrored (Run.Alongside before before') (fun _ => false) s' (s.perform n)
        (s'.perform n) :=
      { host := hs.trans s.host.unwoven_eq_keeping
        body := fun r r' name h => h.body name
        call := ih
        layered := fun t ht => by
          have hlayers : (t.keeping fun _ => false).member.layers = [] := List.filter_false _
          have hplain : (t.keeping fun _ => false).layered (s'.perform n) s' =
              (t.keeping fun _ => false).enter (s'.perform n) := by
            rw [Target.layered, hlayers]
            rfl
          rw [hplain]
          exact layered_simulated_enter (s.upholds_conduct.perform n) t ht }
    exact hmirrored.performWith q

end Simulation

namespace Loom

/-- The classes stay the same but for their layers. -/
def sameClasses : Contract Loom where
  allows _ l l' := l'.host.unwoven = l.host.unwoven
  refl _ _ := rfl
  trans h h' := h'.trans h

theorem weave_sameClasses (guard c : Nat) (d : Descriptor) :
    sameClasses.Meets (weave guard c d) := by
  intro l
  show (weave guard c d l).2.host.unwoven = l.host.unwoven
  rcases weave_snd_cases guard c d l with hsame | ⟨-, cls, r, -, hweave⟩
  · rw [hsame]
  · rw [hweave]
    exact l.host.unwoven_modify c _

theorem transform_sameClasses (a : Agent) (c : Nat) : sameClasses.Meets (a.transform c) :=
  transform_meets ⟨fun _ _ _ _ => rfl, fun guard d => weave_sameClasses guard c d⟩ a

end Loom

namespace World

/-- A step in the life of a world: advice is woven, or something happens that leaves the classes as
they are. -/
inductive Step : World → World → Prop
  | weave (i c d w) : Step w (weave i c d w).2
  | transform (i c w) : Step w (transform i c w).2
  | elsewhere {w w'} (h : w'.host = w.host) : Step w w'

theorem Step.unwoven {w w' : World} (h : Step w w') : w'.host.unwoven = w.host.unwoven := by
  cases h with
  | weave i c d w => exact Loom.weave_sameClasses _ c d (w.loom i)
  | transform i c w => exact Loom.transform_sameClasses _ c (w.loom i)
  | elsewhere h => rw [h]

theorem unwoven_of_steps {w w' : World} (h : Relation.ReflTransGen Step w w') :
    w'.host.unwoven = w.host.unwoven := by
  induction h with
  | refl => rfl
  | tail _ hs ih => exact hs.unwoven.trans ih

end World

/-- **Host transparency.** Whatever has been woven into classes that had no advice, and whatever the
advice and the logging handlers do, a call that is made outside advice and comes to an end returns
or raises what it does on the classes without advice, with the same bodies begun outside advice in
the same order. The plain call ends wherever the woven one does, and has no other end. -/
theorem host_transparency {w₀ w : World} (hplain : w₀.host.unwoven = w₀.host)
    (hsteps : Relation.ReflTransGen World.Step w₀ w) (hw : w.run.AtRest) :
    ∀ i depth advices q o w', World.call i depth advices q w = (o, w') → o.isFinished = true →
      ∀ (u : World) j advices', u.host = w₀.host → u.run.inside = false →
        ∃ u',
          (∀ depth', depth ≤ depth' ∨ (World.call j depth' advices' q u).1.isFinished = true →
            World.call j depth' advices' q u = (o, u')) ∧
          ∃ bodies, w'.run.outsideBodies = w.run.outsideBodies ++ bodies ∧
            u'.run.outsideBodies = u.run.outsideBodies ++ bodies := by
  intro i depth advices q o w' hcall ho u j advices' hu houtside
  have hhost : (u.stage j advices').host = (w.stage i advices).host.unwoven := by
    show u.host = w.host.unwoven
    rw [World.unwoven_of_steps hsteps, hplain, hu]
  have halongside : w.run.Alongside w.run.outsideBodies u.run.outsideBodies u.run :=
    ⟨hw, houtside, [], (List.append_nil _).symm, (List.append_nil _).symm⟩
  have hsimulated := Stage.perform_unwoven hhost depth q w.run u.run halongside
  -- a call of the world is the call on its stage, with the run put back
  have hworld : (o, w') = (((w.stage i advices).perform depth).call q w.run |>.1,
      { w with run := ((w.stage i advices).perform depth).call q w.run |>.2 }) := hcall.symm
  obtain ⟨rfl, rfl⟩ := Prod.mk.inj hworld
  obtain ⟨r', hplainCall, hr'⟩ := hsimulated ho
  rw [Outcome.map_id] at hplainCall
  refine ⟨{ u with run := r' }, fun depth' hdepth' => ?_, hr'.bodies⟩
  have hstage : ((u.stage j advices').perform depth').call q u.run =
      ((u.stage j advices').perform depth).call q u.run := by
    rcases Nat.le_total depth depth' with hle | hle
    · exact (u.stage j advices').perform_of_le hle (by rw [hplainCall]; exact ho)
    · rcases hdepth' with hle' | hfinished
      · rw [Nat.le_antisymm hle hle']
      · exact ((u.stage j advices').perform_of_le hle hfinished).symm
  show (((u.stage j advices').perform depth').call q u.run |>.1,
    { u with run := ((u.stage j advices').perform depth').call q u.run |>.2 }) = _
  rw [hstage, hplainCall]

/-- A world with the counting class, one agent, and a logging handler that fails on every record. -/
def World.countdown : World :=
  { World.initial {} warningLevel (some (.requested .runtime (some "disk full"))) with
    host := .countdown [] }

/-- The world in which advice has been woven that fails, and advice that calls the method again. -/
def World.wovenCountdown : World :=
  let fails := Descriptor.onCountdown "fails" .onExit [.raise (.requested .interrupted none)]
  let calls := Descriptor.onCountdown "calls" .onEntry [.call "step" [.int 3]]
  (World.weave 0 0 calls (World.weave 0 0 fails .countdown).2).2

theorem host_transparency_of_countdown :
    let q : Request :=
      ⟨.member (.instanceOf (HostClass.countdown []).ref) "step", { positional := [.int 2] }⟩
    let woven := World.call 0 9 [] q .wovenCountdown
    World.countdown.host.unwoven = World.countdown.host ∧
      Relation.ReflTransGen World.Step .countdown .wovenCountdown ∧
      World.wovenCountdown.run.AtRest ∧
      woven.1.isFinished = true ∧
      ∃ u', World.call 0 9 [] q .countdown = (woven.1, u') ∧
        ∃ bodies, woven.2.run.outsideBodies = World.wovenCountdown.run.outsideBodies ++ bodies ∧
          u'.run.outsideBodies = World.countdown.run.outsideBodies ++ bodies := by
  intro q woven
  have hplain : World.countdown.host.unwoven = World.countdown.host := rfl
  have hsteps : Relation.ReflTransGen World.Step .countdown .wovenCountdown :=
    .tail (.single (.weave 0 0 _ _)) (.weave 0 0 _ _)
  have hw : World.wovenCountdown.run.AtRest := by
    refine ⟨rfl, fun h hh fails hsink r f hf => ?_⟩
    rcases List.mem_cons.mp hh with rfl | hh
    · cases hsink
    · rw [List.mem_singleton.mp hh] at hsink
      cases hsink
      cases hf
      rfl
  have hfinished : woven.1.isFinished = true := by decide +kernel
  obtain ⟨u', hsame, hbodies⟩ := host_transparency hplain hsteps hw 0 9 [] q woven.1 woven.2
    (Prod.eta woven).symm hfinished .countdown 0 [] rfl rfl
  exact ⟨hplain, hsteps, hw, hfinished, u', hsame 9 (.inl (Nat.le_refl 9)), hbodies⟩

end AspectAgent
