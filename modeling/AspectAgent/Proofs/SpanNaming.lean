import AspectAgent.Proofs.Discipline
import AspectAgent.Proofs.FirstArgument
import AspectAgent.Proofs.Schedule

/-!
# Span naming, from the weaving to the policy

The descriptor of a phase puts advice around the phase method that runs after every call of it, and
all that this advice does is to hand the policy the first argument that the view of the call shows.
Its turn is therefore known moment by moment: it starts, the policy is handed the argument, and it
ends, by a fault if the policy fails. Around it lie the turns of other advice, before it the method;
none of them changes what the caller gets.
-/

namespace AspectAgent

open Act

namespace Layer

variable (l : Layer) (policyFailure : Option Failure) (view : AdviceCall)

/-- The turn of span-naming advice in which its policy is handed a value. -/
def handing (v : Value) : List Moment :=
  [.started l.guard (.call view), .happened (.span v),
    .ended l.guard (some view.site.text) policyFailure]

/-- The turn of span-naming advice: the policy is handed the first argument of the view. If the view
does not show one, that is a fault. -/
def naming : List Moment :=
  match Binding.seenArgument view.parameters view.arguments 0 with
  | .ok v => l.handing policyFailure view v
  | .error f => [.started l.guard (.call view), .ended l.guard (some view.site.text) (some f)]

theorem naming_of_seenArgument {v : Value}
    (h : Binding.seenArgument view.parameters view.arguments 0 = .ok v) :
    l.naming policyFailure view = l.handing policyFailure view v := by
  simp [naming, h]

/-- The policy of a turn fails just if the turn is a fault of the guard. -/
theorem countP_handing (v : Value) :
    (l.handing policyFailure view v).countP (Moment.isFaultOf l.guard) =
      if policyFailure.isSome then 1 else 0 := by
  cases policyFailure <;> simp [handing, Moment.isFaultOf]

/-- Whatever a call ended with, its view shows the same parameters and arguments. -/
theorem parameters_exitView (t : Target) (result : Except Failure Value) :
    (l.exitView t result).parameters = t.function.shown.withoutReceiver t.kind ∧
      (l.exitView t result).arguments = t.arguments := by
  cases result <;> exact ⟨rfl, rfl⟩

end Layer

section Turn

variable {nested : Nested} {s : Stage} {r : Run} {view : Layer → AdviceCall} {l : Layer}

/-- Advice that only lets events happen takes its turn with just these. -/
theorem fireOn_of_ended (hr : r.AtRest) (v : Value) (fault : Option Failure) (inner : List Moment)
    (hrun : l.site.descriptor.advice.run nested s (.call (view l))
        (r.startAdvice l.guard (.call (view l))) =
      (fault.elim (.returned v) .raised, (r.startAdvice l.guard (.call (view l))).follow inner)) :
    s.fireOn nested view l r = (.returned (), r.follow (.started l.guard (.call (view l)) ::
      (inner ++ [.ended l.guard (some (view l).site.text) fault]))) := by
  let advice := fun subject => l.site.descriptor.advice.run nested s subject
  let started := r.startAdvice l.guard (.call (view l))
  have hadvice : advice (.call (view l)) started =
      (fault.elim (.returned v) .raised, started.follow inner) := hrun
  have hfollow : r.follow (.started l.guard (.call (view l)) ::
      (inner ++ [.ended l.guard (some (view l).site.text) fault])) =
        ({ started.follow inner with inside := false } : Run).advance
          (.ended l.guard (some (view l).site.text) fault) := by
    rw [startAdvice_follow hr.outside, ← List.cons_append, Run.follow_append]
    rfl
  rw [hfollow]
  cases fault with
  | none => exact bind_of_returned (guarded_of_returned hr.outside hadvice)
  | some f =>
    obtain ⟨hsnd, hfst⟩ := guarded_of_raised hr.outside hadvice
    have hreporting : (started.follow inner).channel.FailsOrdinarily :=
      hr.reporting.of_handlers_eq (Run.handlers_follow started inner)
    exact bind_of_returned (Prod.ext (hfst hreporting) hsnd)

/-- The turn of span-naming advice, moment by moment. -/
theorem fireOn_naming (hr : r.AtRest) {number : Nat} {policyFailure : Option Failure}
    (hadvice : l.site.descriptor.advice = .spanNaming number policyFailure) :
    s.fireOn nested view l r = (.returned (), r.follow (l.naming policyFailure (view l))) := by
  have hrun : (Advice.spanNaming number policyFailure).run nested s (.call (view l)) =
      Act.ofExcept (Binding.seenArgument (view l).parameters (view l).arguments 0) >>= fun v =>
        Run.emit (.span v) >>= fun _ => policyFailure.elim (give .null) Act.raise := by
    cases policyFailure <;> rfl
  cases hseen : Binding.seenArgument (view l).parameters (view l).arguments 0 with
  | error f =>
    rw [Layer.naming, hseen]
    refine fireOn_of_ended hr .null (some f) [] ?_
    rw [hadvice, hrun, hseen]
    rfl
  | ok v =>
    rw [Layer.naming, hseen]
    refine fireOn_of_ended hr .null policyFailure [.happened (.span v)] ?_
    rw [hadvice, hrun, hseen]
    cases policyFailure <;> rfl

end Turn

section Schedule

variable {nested : Nested} {s : Stage} {t : Target} {r : Run} {l : Layer} {inner outer : List Layer}
  {number : Nat} {policyFailure : Option Failure}

/-- Advice for both outcomes takes its turn after that of the layers inside and before that of the
layers outside. -/
theorem exits_append_cons (hphase : l.site.descriptor.phase = .onExitIncludingFailure)
    (result : Except Failure Value) : Layer.exits result (inner ++ l :: outer) =
      Layer.exits result inner ++ l :: Layer.exits result outer := by
  simp [Layer.exits, hphase, Phase.firesAfter]

/-- A call with span-naming advice that comes to an end, moment by moment. -/
theorem scheduled_naming (hn : nested.Meets Run.conduct) (hr : r.AtRest)
    (hphase : l.site.descriptor.phase = .onExitIncludingFailure)
    (hadvice : l.site.descriptor.advice = .spanNaming number policyFailure) {o : Outcome Value}
    {r' : Run} (h : s.scheduled nested t (inner ++ l :: outer) r = (o, r'))
    (ho : o.isFinished = true) :
    ∃ before result r₂ after₁ after₂,
      Fired (t.entryFirings (inner ++ l :: outer)) before ∧
      t.enter nested (r.follow before) = (.ofExcept result, r₂) ∧
      Fired (t.exitFirings result inner) after₁ ∧
      Fired (t.exitFirings result outer) after₂ ∧
      o = .ofExcept result ∧
      r' = r₂.follow (after₁ ++ l.naming policyFailure (l.exitView t result) ++ after₂) := by
  obtain ⟨before, result, r₂, hbefore, henter, hr₂, hexits, hresult⟩ :=
    scheduled_stages hn hr h ho
  rw [exits_append_cons hphase, forEach_append, forEach_cons] at hexits
  rcases fireAll_atRest hn (Layer.exitView t result) (Layer.exits result inner) hr₂ with
    ⟨after₁, hafter₁, hinner⟩ | ⟨r₃, hinner⟩
  · have hr₃ := hr₂.follow after₁
    rw [bind_of_returned hinner, bind_of_returned (fireOn_naming hr₃ hadvice)] at hexits
    rcases fireAll_atRest hn (Layer.exitView t result) (Layer.exits result outer)
        (hr₃.follow _) with ⟨after₂, hafter₂, houter⟩ | ⟨r₄, houter⟩
    · cases hexits.symm.trans houter
      exact ⟨before, result, r₂, after₁, after₂, hbefore, henter, hafter₁, hafter₂, hresult,
        by rw [Run.follow_append, Run.follow_append]⟩
    · cases hexits.symm.trans houter
  · rw [bind_apply, hinner] at hexits
    cases hexits

/-- Span-naming advice alone adds nothing but its turn to a method that comes to an end. -/
theorem scheduled_naming_alone (hn : nested.Meets Run.conduct) (hr : r.AtRest)
    (hphase : l.site.descriptor.phase = .onExitIncludingFailure)
    (hadvice : l.site.descriptor.advice = .spanNaming number policyFailure)
    {result : Except Failure Value} {r₂ : Run}
    (henter : t.enter nested r = (.ofExcept result, r₂)) :
    s.scheduled nested t [l] r =
      (.ofExcept result, r₂.follow (l.naming policyFailure (l.exitView t result))) := by
  have hr₂ : r₂.AtRest := hr.after (enter_conduct hn t) henter
  have hentries : forEach (Layer.entries [l]) (s.fireOn nested (Layer.entryView t)) r =
      (.returned (), r) := by
    rw [show Layer.entries [l] = [] by simp [Layer.entries, hphase]]
    rfl
  have hexits : Layer.exits result [l] = [l] := by
    simp [Layer.exits, hphase, Phase.firesAfter]
  have hattempt : attempt (t.enter nested) r = (.returned result, r₂) := by
    rw [attempt, henter]
    cases result <;> rfl
  rw [Stage.scheduled, bind_of_returned hentries, bind_of_returned hattempt, hexits,
    forEach_singleton, bind_of_returned (fireOn_naming hr₂ hadvice), ofExcept_apply]

end Schedule

/-- The turn of span-naming advice hands the policy what the body has received for the first
parameter after the receiver. -/
theorem FoundFunction.naming_of_received {h : Host} (f : FoundFunction) (l : Layer)
    (policyFailure : Option Failure) {a : Arguments} {p : Parameter} {received : Table Value}
    (hopen : f.CalledOpenly a p) (hdirect : ¬ f.Misdirects h a)
    (hshown : f.function.shown = f.function.signature)
    (hbind : Binding.bindCall (f.target h a).function.signature.parameters
      (f.target h a).allArguments = some received) :
    ∃ v, received.get? p.name = some v ∧ ∀ result,
      l.naming policyFailure (l.exitView (f.target h a) result) =
        l.handing policyFailure (l.exitView (f.target h a) result) v := by
  rw [f.target_function h a, ← hshown] at hbind
  obtain ⟨v, hv, hreceived⟩ := seenArgument_of_received hopen hdirect hbind
  refine ⟨v, hreceived, fun result => l.naming_of_seenArgument policyFailure _ ?_⟩
  obtain ⟨hparameters, harguments⟩ := l.parameters_exitView (f.target h a) result
  rw [hparameters, harguments, f.target_function h a, f.target_kind h a]
  exact hv

namespace Lifecycle

/-- **Span naming.** The descriptor of a phase applies to the classes of its type name. It weaves
the method of its name, which may have a positional receiver or none, exactly if the first parameter
after the receiver that is not variadic has the context type; the method is then found with one more
layer, and nothing else of the host is changed.

A call of a method with this layer, made outside advice with arguments that bind, runs the body with
what they are bound to, and when the body is done the policy is handed once the very value that the
body has for this parameter, whatever the body ended with. The turn of the layer lies between those
of the other layers, the caller gets what the body ended with, and a policy that fails is one fault
of the guard. If the layer is the only one, every call whose body ends comes to this end.

All this is so if the method shows its own signature, unless the argument goes astray. Then all that
the policy can be handed is the stranger. -/
theorem span_naming (typeNumber methodNumber adviceNumber : Nat) (policyFailure : Option Failure)
    (typeName contextType methodName : String) :
    let d := descriptor typeNumber methodNumber adviceNumber policyFailure typeName contextType
      methodName
    (∀ cls : HostClass, d.acceptsType cls = true ↔ cls.name = typeName) ∧
    (∀ (loom : Loom) guard c cls m kind function, loom.host.class? c = some cls →
      loom.registry.sites? c d.key = none → cls.name = typeName →
      cls.HasMethod methodName m kind function →
      let layers : List Layer := if function.shown.TakesFirst kind contextType then
        [⟨⟨typeName, methodName, d⟩, guard⟩] else []
      let host := (Loom.weave guard c d loom).2.host
      host = loom.host.modify c (HostClass.addLayers layers) ∧
        ∀ rest subject, host.found? (c :: rest) subject methodName =
          some (.method ⟨cls.addLayers layers, { m with layers := m.layers ++ layers }, kind,
            function, subject⟩)) ∧
    (∀ (s : Stage) n (f : FoundFunction) a (r : Run) inner l outer p received,
      s.host.DeclaresMethod f → r.AtRest → f.member.layers = inner ++ l :: outer →
      l.site.descriptor = d → f.CalledOpenly a p → f.function.shown = f.function.signature →
      ¬ f.Misdirects s.host a →
      let t := f.target s.host a
      Binding.bindCall t.function.signature.parameters t.allArguments = some received →
      ∃ v, received.get? p.name = some v ∧
        (∀ nested, t.enter nested = t.runBody nested received) ∧
        let handing := fun result => l.handing policyFailure (l.exitView t result) v
        (∀ o r', s.callFound (s.perform n) a (.method f) r = (o, r') → o.isFinished = true →
          ∃ before result r₂ after₁ after₂,
            Fired (t.entryFirings f.member.layers) before ∧
            t.enter (s.perform n) (r.follow before) = (.ofExcept result, r₂) ∧
            Fired (t.exitFirings result inner) after₁ ∧
            Fired (t.exitFirings result outer) after₂ ∧
            o = .ofExcept result ∧ r' = r₂.follow (after₁ ++ handing result ++ after₂)) ∧
        (f.member.layers = [l] → ∀ result r₂, t.enter (s.perform n) r = (.ofExcept result, r₂) →
          s.callFound (s.perform n) a (.method f) r =
            (.ofExcept result, r₂.follow (handing result))) ∧
        ∀ result (r' : Run), l.guard < r'.guards.length →
          (r'.follow (handing result)).faultsOf l.guard =
            r'.faultsOf l.guard + if policyFailure.isSome then 1 else 0) ∧
    ∀ (h : Host) (f : FoundFunction) a p v, f.CalledOpenly a p → f.Misdirects h a →
      Binding.seenArgument (f.function.shown.withoutReceiver f.kind)
        (f.target h a).arguments 0 = .ok v → a.positional.head? = some v := by
  intro d
  refine ⟨acceptsType_descriptor contextType methodName typeNumber methodNumber adviceNumber
    policyFailure typeName, ?_, ?_, ?_⟩
  · rintro loom guard c cls m kind function hc hk rfl hm
    exact weave_descriptor guard hc hm hk
  · intro s n f a r inner l outer p received hf hr hlayers hd hopen hshown hdirect t hbind
    have hn := s.upholds_conduct.perform n
    have hphase : l.site.descriptor.phase = .onExitIncludingFailure := by rw [hd]; rfl
    have hadvice : l.site.descriptor.advice = .spanNaming adviceNumber policyFailure := by
      rw [hd]
      rfl
    obtain ⟨v, hreceived, hnaming⟩ :=
      f.naming_of_received l policyFailure hopen hdirect hshown hbind
    have hcall : s.callFound (s.perform n) a (.method f) r =
        s.scheduled (s.perform n) t f.member.layers r := layered_apply hn s.host f a hr
    refine ⟨v, hreceived, t.enter_of_bindCall hbind, fun o r' hrun ho => ?_,
      fun halone result r₂ henter => ?_, fun result r' hguard => ?_⟩
    · rw [hcall, hlayers] at hrun
      obtain ⟨before, result, r₂, after₁, after₂, hbefore, henter, hafter₁, hafter₂, hresult,
        hr'⟩ :=
        scheduled_naming hn hr hphase hadvice hrun ho
      rw [hnaming] at hr'
      exact ⟨before, result, r₂, after₁, after₂, hlayers ▸ hbefore, henter, hafter₁, hafter₂,
        hresult, hr'⟩
    · rw [hcall, halone, scheduled_naming_alone hn hr hphase hadvice henter, hnaming]
    · rw [Run.faultsOf_follow _ _ _ hguard, Layer.countP_handing]
  · intro h f a p v hopen hastray hv
    exact FoundFunction.seenArgument_of_misdirects hopen hastray hv

def contextParameter : Parameter where
  name := "context"
  annotation := some (.ofClass "faces.context" "FacesContext")

/-- A method of the phase, which returns the context that it takes. -/
def execute : HostFunction where
  name := phaseMethod
  signature := { parameters := [{ name := "self" }, contextParameter] }
  body := .parameter "context"

theorem wellFormed_execute : Parameter.WellFormed execute.shown.parameters :=
  ⟨by decide, by decide, by decide⟩

/-- The class of the phase, its method with layers. -/
def phaseClass (layers : List Layer) : HostClass where
  index := 0
  module := "faces.lifecycle"
  qualname := "RestoreViewPhase"
  members := [⟨phaseMethod, .method .onInstance execute, layers⟩]
  lineage := [0]

/-- The method with a layer of the descriptor, found on a thing. -/
def wovenPhase (policyFailure : Option Failure) (subject : Value) : FoundFunction :=
  let d := descriptor 0 1 0 policyFailure restoreViewPhase facesContext phaseMethod
  let layers : List Layer := [⟨⟨restoreViewPhase, phaseMethod, d⟩, 0⟩]
  ⟨phaseClass layers, ⟨phaseMethod, .method .onInstance execute, layers⟩, .onInstance, execute,
    subject⟩

theorem calledOpenly_wovenPhase (policyFailure : Option Failure) (subject : Value) {a : Arguments}
    (ha : a.keywords.has "self" = false) :
    (wovenPhase policyFailure subject).CalledOpenly a contextParameter where
  parameters := wellFormed_execute
  receiver _ := ⟨_, _, rfl, .inr rfl⟩
  names :=
    { receiver := fun _ p hp => by cases hp; exact ha
      positionalOnly := by
        simp [Parameter.NoneHidden, wovenPhase, HostFunction.shown, execute, contextParameter] }
  first := rfl

/-- The class is woven with a policy that fails, and the method is called with a keyword. -/
theorem span_naming_of_keyword :
    let failure := some (Failure.requested .value (some "no span"))
    let d := descriptor 0 1 0 failure restoreViewPhase facesContext phaseMethod
    let host := (Loom.weave 0 0 d { host := { classes := [phaseClass []] } }).2.host
    let s : Stage := { host := host }
    let f := wovenPhase failure (.instanceOf (phaseClass []).ref)
    let a : Arguments := { keywords := [("context", .text "view")] }
    host.found? [0] f.subject phaseMethod = some (.method f) ∧ s.host.DeclaresMethod f ∧
      ∃ r', s.callFound (s.perform 1) a (.method f) { guards := [{}] } =
          (.returned (.text "view"), r') ∧
        r'.events = [.body "faces.lifecycle.RestoreViewPhase.execute" false,
          .span (.text "view")] ∧
        r'.faultsOf 0 = 1 := by
  intro failure d host s f a
  obtain ⟨-, hweave, hcall, -⟩ :=
    span_naming 0 1 0 failure restoreViewPhase facesContext phaseMethod
  have hmethod : (phaseClass []).HasMethod phaseMethod
      ⟨phaseMethod, .method .onInstance execute, []⟩ .onInstance execute :=
    ⟨by decide, rfl, rfl, fun _ => ⟨_, _, rfl, .inr rfl⟩, by decide⟩
  have hfound : host.found? [0] f.subject phaseMethod = some (.method f) := by
    have htakes : execute.shown.TakesFirst .onInstance facesContext := by decide
    have hwoven := (hweave { host := { classes := [phaseClass []] } } 0 0 _ _ _ _ rfl rfl
      (by decide) hmethod).2 [] f.subject
    rw [if_pos htakes] at hwoven
    exact hwoven
  have hf : s.host.DeclaresMethod f := Host.found?_isOf hfound
  have hr : ({ guards := [{}] } : Run).AtRest := ⟨rfl, nofun⟩
  have hdirect : ¬ f.Misdirects s.host a := by
    rintro ⟨⟨-, c, v, vs, hsubject, -⟩, -⟩
    cases hsubject
  obtain ⟨v, hv, -, -, halone, hfaults⟩ := hcall s 1 f a _ [] _ [] _ _ hf hr rfl rfl
    (calledOpenly_wovenPhase failure f.subject rfl) rfl hdirect rfl
  cases hv
  refine ⟨hfound, hf, _, halone rfl (.ok (.text "view")) _ rfl, rfl, ?_⟩
  exact hfaults (.ok (.text "view")) _ (by decide)

/-- A method that is called on the class with a stranger receives the context, but no policy is
handed it: the view, which has one argument too many, does not bind. -/
theorem span_unnamed_of_stranger :
    let d := descriptor 0 1 0 none restoreViewPhase facesContext phaseMethod
    let host := (Loom.weave 0 0 d { host := { classes := [phaseClass []] } }).2.host
    let s : Stage := { host := host }
    let f := wovenPhase none (.classOf (phaseClass []).ref)
    let a : Arguments := { positional := [.int 5, .text "view"] }
    let t := f.target s.host a
    host.found? [0] f.subject phaseMethod = some (.method f) ∧
      Binding.bindCall t.function.signature.parameters t.allArguments =
        some [("self", .int 5), ("context", .text "view")] ∧
      ∃ r', s.callFound (s.perform 1) a (.method f) { guards := [{}] } =
          (.returned (.text "view"), r') ∧
        r'.events = [.body "faces.lifecycle.RestoreViewPhase.execute" false] ∧
        r'.faultsOf 0 = 1 := by
  intro d host s f a t
  exact ⟨rfl, rfl, _, rfl, rfl, rfl⟩

end Lifecycle

end AspectAgent
