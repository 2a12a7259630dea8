import AspectAgent.Proofs.HostContract
import AspectAgent.Proofs.Reporting

/-!
# The conduct of a run

Each moment of the journal stands for one small change of the run: an event is added, or a fault is
counted and reported. `Run.follow` makes these changes in order, and every call and every request to
a guard leaves the run that follows from the moments it has added: the rest of the state is a
function of the journal. The added moments have a simple form. While advice is running nothing but
events is added; otherwise each start of advice is closed by its own end, with nothing but events
in between.
-/

namespace AspectAgent

open Act Contract

/-- The moments of a time in which advice is running all the time: no advice is started. -/
def WithinAdvice (t : List Moment) : Prop :=
  ∀ m ∈ t, ∃ e, m = .happened e ∧ e.AgreesWith true

/-- The moments of a time that begins outside advice. Advice that has been started runs on its own
until its end; if the run does not finish, it may stop in the middle of advice. -/
inductive Bracketed : Bool → List Moment → Prop
  | nil (finished) : Bracketed finished []
  | happened {finished e t} (he : e.AgreesWith false) (ht : Bracketed finished t) :
      Bracketed finished (.happened e :: t)
  | advice {finished g subject inner fault t} (hi : WithinAdvice inner)
      (ht : Bracketed finished t) :
      Bracketed finished (.started g subject :: (inner ++ .ended g subject.site fault :: t))
  | broken {g subject inner} (hi : WithinAdvice inner) :
      Bracketed false (.started g subject :: inner)

theorem WithinAdvice.append {t u : List Moment} (ht : WithinAdvice t) (hu : WithinAdvice u) :
    WithinAdvice (t ++ u) := by
  intro m hm
  rcases List.mem_append.mp hm with hm | hm
  · exact ht m hm
  · exact hu m hm

theorem Bracketed.append {b : Bool} {t u : List Moment} (ht : Bracketed true t)
    (hu : Bracketed b u) : Bracketed b (t ++ u) := by
  generalize hc : true = c at ht
  induction ht with
  | nil => exact hu
  | happened he _ ih => exact .happened he (ih hc)
  | advice hi _ ih => simpa using Bracketed.advice hi (ih hc)
  | broken hi => cases hc

namespace Run

/-- Counts a fault, and reports it if the guard reports faults. -/
def fault (g : Nat) (site : Option String) (cause : Failure) (r : Run) : Run :=
  if r.reports g then
    { r.countFault g with channel := r.channel.logged (faultRecord site cause) }
  else r.countFault g

/-- The change that a moment stands for. -/
def advance (r : Run) : Moment → Run
  | .happened e => r.occur e
  | .ended g site (some cause) => (r.note (.ended g site (some cause))).fault g site cause
  | m => r.note m

/-- The changes that moments stand for, one after the other. -/
def follow (t : List Moment) (r : Run) : Run := t.foldl advance r

@[simp] theorem follow_nil (r : Run) : r.follow [] = r := rfl

@[simp] theorem follow_cons (m : Moment) (t : List Moment) (r : Run) :
    r.follow (m :: t) = (r.advance m).follow t := rfl

@[simp] theorem follow_append (t u : List Moment) (r : Run) :
    r.follow (t ++ u) = (r.follow t).follow u := List.foldl_append

variable (r : Run) (g : Nat) (site : Option String) (cause : Failure)

@[simp] theorem inside_fault : (r.fault g site cause).inside = r.inside := by
  unfold fault
  split <;> rfl

@[simp] theorem journal_fault : (r.fault g site cause).journal = r.journal := by
  unfold fault
  split <;> rfl

@[simp] theorem events_fault : (r.fault g site cause).events = r.events := by
  unfold fault
  split <;> rfl

@[simp] theorem handlers_fault :
    (r.fault g site cause).channel.handlers = r.channel.handlers := by
  unfold fault
  split
  · exact LogChannel.handlers_logged _ _
  · rfl

theorem withInside_self {r : Run} {b : Bool} (h : r.inside = b) : { r with inside := b } = r := by
  subst h
  rfl

theorem fault_withInside (b : Bool) :
    ({ r with inside := b }).fault g site cause = { r.fault g site cause with inside := b } := by
  show (if r.reports g then _ else _) = _
  unfold fault
  split <;> rfl

theorem reports_countFault (k : Nat) : (r.countFault g).reports k = r.reports k := by
  unfold reports countFault
  by_cases h : g = k
  · subst h
    cases hk : r.guards[g]? <;> simp [hk]
  · simp [h]

theorem recordFault_apply : recordFault g site cause r =
    (if r.reports g then Act.orElse (report (faultRecord site cause)) fun _ => Act.give ()
      else pure () : Act Run Unit) (r.countFault g) := by
  show (if (r.countFault g).reports g then _ else _ : Act Run Unit) (r.countFault g) = _
  rw [reports_countFault]

/-- A guard that takes note of a fault leaves the state that `fault` tells. -/
theorem recordFault_snd : (recordFault g site cause r).2 = r.fault g site cause := by
  rw [recordFault_apply]
  unfold fault
  split
  · exact Act.orElse_give_snd _ _ _
  · rfl

/-- A guard lets nothing out when it takes note of a fault. -/
theorem recordFault_fst (hr : r.channel.FailsOrdinarily) :
    (recordFault g site cause r).1 = .returned () := by
  rw [recordFault_apply]
  split
  · have hreport : (report (faultRecord site cause) : Act Run Unit) (r.countFault g) =
        ((LogChannel.log (faultRecord site cause) r.channel).1,
          { r.countFault g with channel := r.channel.logged (faultRecord site cause) }) := rfl
    rw [Act.orElse, hreport]
    rcases LogChannel.log_faultRecord site cause hr with ⟨a, ha⟩ | ⟨f, hf, ho⟩
    · rw [ha]
    · rw [hf]
      simp only [ho, if_true]
      rfl
  · rfl

theorem advance_withInside (b : Bool) (m : Moment) :
    ({ r with inside := b }).advance m = { r.advance m with inside := b } := by
  cases m with
  | started g subject => rfl
  | happened e => rfl
  | ended g site cause =>
    cases cause with
    | none => rfl
    | some cause => exact fault_withInside (r.note _) g site cause b

theorem follow_withInside (b : Bool) (t : List Moment) :
    ({ r with inside := b }).follow t = { r.follow t with inside := b } := by
  induction t generalizing r with
  | nil => rfl
  | cons m t ih => rw [follow_cons, follow_cons, advance_withInside, ih]

/-- What noted moments, events and faults leave as it is, no moment changes. -/
theorem advance_frame {β : Type} (φ : Run → β) (hnote : ∀ r m, φ (note m r) = φ r)
    (hoccur : ∀ r e, φ (occur e r) = φ r)
    (hfault : ∀ r g site cause, φ (fault g site cause r) = φ r) (r : Run) (m : Moment) :
    φ (r.advance m) = φ r := by
  cases m with
  | started g subject => exact hnote r _
  | happened e => exact hoccur r e
  | ended g site cause =>
    cases cause with
    | none => exact hnote r _
    | some cause =>
      calc φ (fault g site cause (r.note _)) = φ (r.note _) := hfault _ g site cause
        _ = φ r := hnote r _

theorem follow_frame {β : Type} (φ : Run → β) (h : ∀ r m, φ (advance r m) = φ r) (r : Run)
    (t : List Moment) : φ (r.follow t) = φ r := by
  induction t generalizing r with
  | nil => rfl
  | cons m t ih => rw [follow_cons, ih, h]

@[simp] theorem inside_advance (m : Moment) : (r.advance m).inside = r.inside :=
  advance_frame inside (fun _ _ => rfl) (fun _ _ => rfl) inside_fault r m

@[simp] theorem inside_follow (t : List Moment) : (r.follow t).inside = r.inside :=
  follow_frame inside inside_advance r t

theorem handlers_advance (m : Moment) :
    (r.advance m).channel.handlers = r.channel.handlers :=
  advance_frame (fun r => r.channel.handlers) (fun _ _ => rfl) (fun _ _ => rfl) handlers_fault r m

theorem handlers_follow (t : List Moment) :
    (r.follow t).channel.handlers = r.channel.handlers :=
  follow_frame (fun r => r.channel.handlers) handlers_advance r t

@[simp] theorem journal_advance (m : Moment) : (r.advance m).journal = r.journal ++ [m] := by
  cases m with
  | started g subject => rfl
  | happened e => rfl
  | ended g site cause =>
    cases cause with
    | none => rfl
    | some cause => exact journal_fault (r.note _) g site cause

theorem journal_follow (t : List Moment) : (r.follow t).journal = r.journal ++ t := by
  induction t generalizing r with
  | nil => simp
  | cons m t ih => rw [follow_cons, ih, journal_advance, List.append_assoc, List.singleton_append]

/-- What a run does is to add moments that are bracketed by advice, and to follow them. -/
def conduct : Contract Run where
  allows finished r r' := ∃ t, r' = r.follow t ∧ (r.inside = true → WithinAdvice t) ∧
    (r.inside = false → Bracketed finished t)
  refl finished r := ⟨[], rfl, fun _ m hm => absurd hm List.not_mem_nil, fun _ => .nil finished⟩
  trans := by
    rintro b r _ _ ⟨t, rfl, ht, ht'⟩ ⟨u, rfl, hu, hu'⟩
    rw [inside_follow] at hu hu'
    exact ⟨t ++ u, (follow_append t u r).symm, fun h => (ht h).append (hu h),
      fun h => (ht' h).append (hu' h)⟩

end Run

section Guarded

variable {g : Nat} {subject : AdviceSubject} {advice : AdviceSubject → Act Run Value} {r : Run}

/-- While advice is running a request is passed over without any effect. -/
theorem guarded_of_inside (h : r.inside = true) :
    guarded g subject advice r = (.returned .skipped, r) := by
  rw [guarded, bind_apply, read_apply]
  simp only [h, if_true]
  rfl

variable {r' : Run}

theorem guarded_of_returned {v : Value} (h : r.inside = false)
    (ha : advice subject (r.startAdvice g subject) = (.returned v, r')) :
    guarded g subject advice r = (.returned (.completed v),
      ({ r' with inside := false }).advance (.ended g subject.site none)) := by
  simp only [guarded, bind_apply, read_apply, h, Bool.false_eq_true, if_false, change_apply,
      ensuring, attempt, ha]
  rfl

theorem guarded_of_unfinished (h : r.inside = false)
    (ha : advice subject (r.startAdvice g subject) = (.unfinished, r')) :
    guarded g subject advice r = (.unfinished, { r' with inside := false }) := by
  simp only [guarded, bind_apply, read_apply, h, Bool.false_eq_true, if_false, change_apply,
      ensuring, attempt, ha]

theorem guarded_of_raised {f : Failure} (h : r.inside = false)
    (ha : advice subject (r.startAdvice g subject) = (.raised f, r')) :
    (guarded g subject advice r).2 =
        ({ r' with inside := false }).advance (.ended g subject.site (some f)) ∧
      (r'.channel.FailsOrdinarily → (guarded g subject advice r).1 =
        .returned (.failed (.adviceFailed subject.site f))) := by
  let ended := ({ r' with inside := false }).note (.ended g subject.site (some f))
  have happly : guarded g subject advice r =
      (do recordFault g subject.site f
          return .failed (.adviceFailed subject.site f) : Act Run AdviceResult) ended := by
    simp only [guarded, bind_apply, read_apply, h, Bool.false_eq_true, if_false, change_apply,
      ensuring, attempt, ha]
    rfl
  rw [happly, bind_apply]
  constructor
  · have hsnd := ended.recordFault_snd g subject.site f
    rcases hrec : recordFault g subject.site f ended with ⟨o, r''⟩
    rw [hrec] at hsnd
    cases o <;> exact hsnd
  · intro hr
    have hfst := ended.recordFault_fst g subject.site f hr
    rcases hrec : recordFault g subject.site f ended with ⟨o, r''⟩
    rw [hrec] at hfst
    cases hfst
    rfl

/-- What follows the start of advice, the flag apart. -/
theorem startAdvice_follow (h : r.inside = false) (inner : List Moment) :
    ({ (r.startAdvice g subject).follow inner with inside := false } : Run) =
      r.follow (.started g subject :: inner) := by
  have hstart : r.startAdvice g subject =
      { r.advance (.started g subject) with inside := true } := rfl
  have hflag : (r.follow (.started g subject :: inner)).inside = false := by
    rw [Run.inside_follow, h]
  rw [hstart, Run.follow_withInside]
  exact Run.withInside_self hflag

/-- The flag apart, the state at the end of advice follows from its start and its moments. -/
theorem advice_follow (h : r.inside = false) (hx : Run.conduct.Meets (advice subject)) :
    ∃ inner, WithinAdvice inner ∧
      ({ (advice subject (r.startAdvice g subject)).2 with inside := false } : Run) =
        r.follow (.started g subject :: inner) := by
  obtain ⟨inner, hinner, hwithin, -⟩ := hx (r.startAdvice g subject)
  exact ⟨inner, hwithin rfl, by rw [hinner, startAdvice_follow h]⟩

theorem guarded_conduct (hx : Run.conduct.Meets (advice subject)) :
    Run.conduct.Meets (guarded g subject advice) := by
  intro r
  unfold MeetsAt
  cases h : r.inside with
  | true =>
    rw [guarded_of_inside h]
    exact Run.conduct.refl true r
  | false =>
    obtain ⟨inner, hinner, hr'⟩ := advice_follow (g := g) h hx
    rcases ha : advice subject (r.startAdvice g subject) with ⟨o, r'⟩
    rw [ha] at hr'
    have hended : ∀ b fault, Run.conduct.allows b r
        (({ r' with inside := false } : Run).advance (.ended g subject.site fault)) := by
      intro b fault
      refine ⟨.started g subject :: (inner ++ [.ended g subject.site fault]), ?_, ?_, ?_⟩
      · rw [hr', ← List.cons_append, Run.follow_append]
        rfl
      · exact fun hi => absurd (h.symm.trans hi) Bool.false_ne_true
      · exact fun _ => .advice hinner (.nil b)
    cases o with
    | returned v =>
      rw [guarded_of_returned h ha]
      exact hended true none
    | raised f =>
      rw [(guarded_of_raised h ha).1]
      exact hended _ (some f)
    | unfinished =>
      rw [guarded_of_unfinished h ha, hr']
      exact ⟨_, rfl, fun hi => absurd (h.symm.trans hi) Bool.false_ne_true,
        fun _ => .broken hinner⟩

/-- A guard that runs advice answers with what became of it and notes its end. It never raises. -/
theorem guarded_apply {r : Run} (h : r.inside = false) (hr : r.channel.FailsOrdinarily)
    (hx : Run.conduct.Meets (advice subject)) :
    guarded g subject advice r =
      match advice subject (r.startAdvice g subject) with
      | (.returned v, r') => (.returned (.completed v),
          ({ r' with inside := false }).advance (.ended g subject.site none))
      | (.raised f, r') => (.returned (.failed (.adviceFailed subject.site f)),
          ({ r' with inside := false }).advance (.ended g subject.site (some f)))
      | (.unfinished, r') => (.unfinished, { r' with inside := false }) := by
  obtain ⟨t, ht, -⟩ := hx (r.startAdvice g subject)
  rcases ha : advice subject (r.startAdvice g subject) with ⟨o, r'⟩
  rw [ha] at ht
  cases o with
  | returned v => exact guarded_of_returned h ha
  | raised f =>
    have hhandlers : r'.channel.FailsOrdinarily := by
      apply hr.of_handlers_eq
      rw [show r' = _ from ht, Run.handlers_follow]
      rfl
    obtain ⟨hsnd, hfst⟩ := guarded_of_raised h ha
    exact Prod.ext (hfst hhandlers) hsnd
  | unfinished => exact guarded_of_unfinished h ha

end Guarded

/-- No advice is running, and logging handlers raise nothing but ordinary failures. -/
structure Run.AtRest (r : Run) : Prop where
  outside : r.inside = false
  reporting : r.channel.FailsOrdinarily

namespace Run.AtRest

variable {r r' : Run}

theorem follow (h : r.AtRest) (t : List Moment) : (r.follow t).AtRest :=
  ⟨by rw [inside_follow, h.outside], h.reporting.of_handlers_eq (handlers_follow r t)⟩

theorem of_conduct {b : Bool} (h : r.AtRest) (hr : conduct.allows b r r') : r'.AtRest := by
  obtain ⟨t, rfl, -⟩ := hr
  exact h.follow t

theorem after {α : Type} {x : Act Run α} {o : Outcome α} (h : r.AtRest) (hx : conduct.Meets x)
    (hr : x r = (o, r')) : r'.AtRest := by
  have hconduct := hx r
  unfold MeetsAt at hconduct
  rw [hr] at hconduct
  exact h.of_conduct hconduct

end Run.AtRest

/-- Outside advice a guard leaves the start and the end of the advice with what lies between them,
unless the advice does not finish. -/
theorem guarded_atRest {g : Nat} {subject : AdviceSubject} {advice : AdviceSubject → Act Run Value}
    {r : Run} (hr : r.AtRest) (hx : Run.conduct.Meets (advice subject)) :
    (∃ result inner fault, WithinAdvice inner ∧ guarded g subject advice r = (.returned result,
      r.follow (.started g subject :: (inner ++ [.ended g subject.site fault])))) ∨
    ∃ r', guarded g subject advice r = (.unfinished, r') := by
  obtain ⟨inner, hinner, hr'⟩ := advice_follow (g := g) hr.outside hx
  have happly := guarded_apply (g := g) hr.outside hr.reporting hx
  rcases ha : advice subject (r.startAdvice g subject) with ⟨o, r'⟩
  rw [ha] at hr' happly
  have hended : ∀ fault, ({ r' with inside := false } : Run).advance (.ended g subject.site fault) =
      r.follow (.started g subject :: (inner ++ [.ended g subject.site fault])) := by
    intro fault
    rw [hr', ← List.cons_append, Run.follow_append]
    rfl
  cases o with
  | returned v =>
    exact .inl ⟨_, inner, none, hinner, happly.trans (congrArg (Prod.mk _) (hended none))⟩
  | raised f =>
    exact .inl ⟨_, inner, some f, hinner, happly.trans (congrArg (Prod.mk _) (hended (some f)))⟩
  | unfinished => exact .inr ⟨_, happly⟩

theorem Run.conduct_occur (r : Run) (e : Event) (he : e.AgreesWith r.inside) :
    conduct.allows true r (r.occur e) := by
  refine ⟨[.happened e], rfl, fun hi m hm => ?_, fun hi => .happened (hi ▸ he) (.nil true)⟩
  rw [List.mem_singleton] at hm
  exact ⟨e, hm, hi ▸ he⟩

theorem Run.admits_conduct : Run.Admits Run.conduct where
  occur r e _ he := r.conduct_occur e he
  asked _ _ _ hx := guarded_conduct hx

/-- Every call and every piece of advice on every stage conducts itself so. -/
theorem Stage.upholds_conduct (s : Stage) : s.Upholds Run.conduct where
  toAdmits := Run.admits_conduct
  method _ hn _ _ _ := Run.admits_conduct.layered hn (fun _ _ _ hx => guarded_conduct hx) _
    (hn.enter _ fun r => r.conduct_occur _ rfl)
  property _ hn _ _ := hn.enter _ fun r => r.conduct_occur _ rfl

end AspectAgent
