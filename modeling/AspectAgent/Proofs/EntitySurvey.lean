import AspectAgent.Proofs.Measuring
import AspectAgent.Proofs.ReliableLogging

/-!
# Surveys of entities

A survey reads one entity after the other, as sampling does, and reports what sampling reports, but
records nothing: it tells what came of each reading. Sampling into a recorder that turns values into
floating-point numbers is a survey that records the usable readings, unless one of them is too large
to be turned into such a number. Such a reading ends the sampling, for the recorder fails where
nothing looks after the single entity.
-/

namespace AspectAgent

open Act

theorem LogRecord.samplingRecord_isPlain (instrument entity : String) (f : Failure) :
    (Sampling.faultRecord instrument entity f).IsPlain :=
  isPlain_of_extra rfl (by simp [Sampling.faultRecord, Table.keys, standardFields, messageMaker])
    (.inl rfl)

namespace Sampling

namespace EntitySampler

variable {σ E : Type} [HasChannel σ] (s : EntitySampler σ E)

/-- The reading of an entity, with the number in it. -/
def reading (e : E) : Act σ Value := s.read e >>= fun v => Act.ofExcept (s.extract v)

/-- Reads an entity and reports a reading that is no usable number. -/
def survey (e : E) : Act σ (Except Failure Value) := do
  let o ← Act.caught (s.reading e)
  match o >>= Value.usable with
  | .ok _ => return o
  | .error f => do
    report (faultRecord s.instrument (← s.shown e) f)
    return o

/-- The sampler beside which something is recorded. -/
def beside : EntitySampler (Recorder σ) E where
  instrument := s.instrument
  shown e := Recorder.beside (s.shown e)
  read e := Recorder.beside (s.read e)
  extract := s.extract

end EntitySampler

end Sampling

namespace Recorder

variable {σ α β : Type} {ms : List Measurement} {st st' : σ}

theorem beside_apply (x : Act σ α) (ms : List Measurement) (st : σ) :
    beside x (ms, st) = ((x st).1, ms, (x st).2) := rfl

theorem beside_bind (x : Act σ α) (k : α → Act σ β) :
    beside (x >>= k) = beside x >>= fun a => beside (k a) := by
  funext s
  obtain ⟨ms, st⟩ := s
  rw [bind_apply, beside_apply, beside_apply, bind_apply]
  rcases x st with ⟨_ | _ | _, _⟩ <;> rfl

theorem beside_ofExcept (e : Except Failure α) : beside (ofExcept e : Act σ α) = ofExcept e := by
  cases e <;> rfl

theorem beside_caught (x : Act σ α) : beside (caught x) = caught (beside x) := by
  funext s
  obtain ⟨ms, st⟩ := s
  rw [beside_apply]
  unfold caught
  rw [beside_apply]
  rcases x st with ⟨_ | f | _, st'⟩
  · rfl
  · by_cases hf : f.isOrdinary = true
    · simp [hf]
    · simp [hf]
  · rfl

theorem beside_report [HasChannel σ] (r : LogRecord) :
    beside (report r : Act σ Unit) = report r := rfl

end Recorder

namespace Act

variable {σ α β : Type} {x : Act σ α} {s s' : σ}

theorem caught_of_returned {a : α} (h : x s = (.returned a, s')) :
    caught x s = (.returned (.ok a), s') := by
  rw [caught, h]

theorem caught_of_ordinary {f : Failure} (h : x s = (.raised f, s')) (hf : f.isOrdinary = true) :
    caught x s = (.returned (.error f), s') := by
  rw [caught, h]
  exact if_pos hf

theorem caught_of_raised {f : Failure} (h : x s = (.raised f, s')) (hf : f.isOrdinary = false) :
    caught x s = (.raised f, s') := by
  rw [caught, h]
  exact if_neg (by rw [hf]; exact Bool.false_ne_true)

theorem caught_of_unfinished (h : x s = (.unfinished, s')) :
    caught x s = (.unfinished, s') := by
  rw [caught, h]

/-- A result that is refused in an ordinary way may as well be refused after it was caught. -/
theorem caught_bind_ofExcept (x : Act σ α) (g : α → Except Failure β)
    (hg : ∀ a f, g a = .error f → f.isOrdinary = true) :
    caught (x >>= fun a => ofExcept (g a)) = caught x >>= fun o => pure (o >>= g) := by
  funext s
  rcases hx : x s with ⟨a | f | _, s'⟩
  · rw [bind_of_returned (caught_of_returned hx)]
    have hbind : (x >>= fun a => ofExcept (g a)) s = (Outcome.ofExcept (g a), s') :=
      (bind_of_returned hx).trans (ofExcept_apply (g a) s')
    cases h : g a with
    | ok b =>
      rw [h] at hbind
      rw [caught_of_returned hbind]
      exact congrArg (fun o => (Outcome.returned o, s')) h.symm
    | error f =>
      rw [h] at hbind
      rw [caught_of_ordinary hbind (hg a f h)]
      exact congrArg (fun o => (Outcome.returned o, s')) h.symm
  · have hbind : (x >>= fun a => ofExcept (g a)) s = (.raised f, s') := by
      rw [bind_apply, hx]
    rw [bind_apply]
    cases hf : f.isOrdinary with
    | true =>
      rw [caught_of_ordinary hx hf, caught_of_ordinary hbind hf]
      rfl
    | false => rw [caught_of_raised hx hf, caught_of_raised hbind hf]
  · have hbind : (x >>= fun a => ofExcept (g a)) s = (.unfinished, s') := by
      rw [bind_apply, hx]
    rw [bind_apply, caught_of_unfinished hx, caught_of_unfinished hbind]

end Act

namespace Sampling

variable {σ E : Type} (s : EntitySampler σ E)

theorem EntitySampler.caught_number (e : E) : Act.caught (s.number e) =
    Act.caught (s.reading e) >>= fun o => pure (o >>= Value.usable) := by
  rw [← Act.caught_bind_ofExcept _ _ fun v f h => Value.usable_isOrdinary h]
  refine congrArg Act.caught ?_
  unfold EntitySampler.number EntitySampler.reading
  rw [bind_assoc]
  refine congrArg (s.read e >>= ·) (funext fun v => ?_)
  cases s.extract v <;> rfl

theorem EntitySampler.number_beside (e : E) : s.beside.number e = Recorder.beside (s.number e) := by
  unfold EntitySampler.number
  rw [Recorder.beside_bind]
  exact congrArg (Recorder.beside (s.read e) >>= ·)
    (funext fun v => (Recorder.beside_ofExcept _).symm)

variable [HasChannel σ]

theorem sampleEntities_cons (sink : Sink (Recorder σ)) (e : E) (attributes : AttributeSet)
    (rest : List (E × AttributeSet)) :
    sampleEntities s.beside sink ((e, attributes) :: rest) = (do
      let o ← Recorder.beside (s.survey e)
      sampleOne sink attributes o
      sampleEntities s.beside sink rest) := by
  rw [sampleEntities, EntitySampler.number_beside, ← Recorder.beside_caught,
    EntitySampler.caught_number, Recorder.beside_bind, bind_assoc, EntitySampler.survey,
    Recorder.beside_bind, bind_assoc]
  refine congrArg (Recorder.beside (Act.caught (s.reading e)) >>= ·) (funext fun o => ?_)
  cases h : o >>= Value.usable with
  | ok v =>
    show (if !v.isUnavailable then (sink v attributes.entries >>= fun _ => _) else _) =
      sampleOne sink attributes o >>= fun _ => sampleEntities s.beside sink rest
    simp only [sampleOne, h]
    cases v.isUnavailable with
    | true => rfl
    | false => rfl
  | error f =>
    show (Recorder.beside (s.shown e) >>= fun shown => report _ >>= fun _ => _) =
      Recorder.beside (s.shown e >>= fun shown => report _ >>= fun _ => pure o) >>= fun o =>
        sampleOne sink attributes o >>= fun _ => sampleEntities s.beside sink rest
    rw [Recorder.beside_bind, bind_assoc]
    refine congrArg (Recorder.beside (s.shown e) >>= ·) (funext fun shown => ?_)
    rw [Recorder.beside_bind, bind_assoc, Recorder.beside_report]
    refine congrArg (report _ >>= ·) (funext fun _ => ?_)
    show sampleEntities s.beside sink rest =
      sampleOne sink attributes o >>= fun _ => sampleEntities s.beside sink rest
    rw [sampleOne, h]
    rfl

theorem sampleEntities_append (sink : Sink σ) (before rest : List (E × AttributeSet)) :
    sampleEntities s sink (before ++ rest) =
      sampleEntities s sink before >>= fun _ => sampleEntities s sink rest := by
  induction before with
  | nil => rfl
  | cons p before ih =>
    obtain ⟨e, attributes⟩ := p
    rw [List.cons_append, sampleEntities, sampleEntities, ih, bind_assoc]
    refine congrArg (Act.caught (s.number e) >>= ·) (funext fun o => ?_)
    cases o with
    | ok v => cases hv : v.isUnavailable <;> simp [hv, bind_assoc]
    | error f => simp [bind_assoc]

/-! ## Surveys that come to an end -/

/-- What is recorded of some entities, given what came of their readings. -/
def recordsOf (entities : List (E × AttributeSet)) (readings : List (Except Failure Value)) :
    List Measurement :=
  (entities.zip readings).flatMap fun p => recordOf p.1.2 p.2

variable {s}

private theorem sampleEntities_step {e : E} {o : Except Failure Value} {st st' : σ}
    (h : s.survey e st = (.returned o, st')) (attributes : AttributeSet)
    (rest : List (E × AttributeSet)) (ms : List Measurement) :
    sampleEntities s.beside Recorder.asNumber ((e, attributes) :: rest) (ms, st) =
      if isTooLarge o then (.raised .integerTooLarge, ms, st')
      else sampleEntities s.beside Recorder.asNumber rest (ms ++ recordOf attributes o, st') := by
  have hsurvey : Recorder.beside (s.survey e) (ms, st) = (.returned o, ms, st') := by
    rw [Recorder.beside_apply, h]
  rw [sampleEntities_cons, bind_of_returned hsurvey, bind_apply, sampleOne_asNumber]
  cases isTooLarge o <;> rfl

/-- Where no reading is too large, sampling records what the survey of the entities finds. -/
theorem sampleEntities_of_survey {entities : List (E × AttributeSet)}
    {readings : List (Except Failure Value)} {st st' : σ}
    (h : Act.collect (entities.map Prod.fst) s.survey st = (.returned readings, st'))
    (hsmall : ∀ o ∈ readings, isTooLarge o = false) (ms : List Measurement) :
    sampleEntities s.beside Recorder.asNumber entities (ms, st) =
      (.returned (), ms ++ recordsOf entities readings, st') := by
  induction entities generalizing readings st ms with
  | nil =>
    cases h
    rw [recordsOf, List.zip_nil_left, List.flatMap_nil, List.append_nil]
    rfl
  | cons p rest ih =>
    obtain ⟨e, attributes⟩ := p
    rw [List.map_cons, collect_cons] at h
    obtain ⟨o, st₁, ho, hrest⟩ := returned_of_bind h
    obtain ⟨os, st₂, hos, hpure⟩ := returned_of_bind hrest
    cases hpure
    have hone : isTooLarge o = false := hsmall o List.mem_cons_self
    have hothers := ih hos (fun o' ho' => hsmall o' (List.mem_cons_of_mem o ho'))
      (ms ++ recordOf attributes o)
    rw [sampleEntities_step ho, hone, if_neg Bool.false_ne_true, hothers, recordsOf, recordsOf,
      List.zip_cons_cons, List.flatMap_cons, List.append_assoc]

/-- A reading that is too large ends the sampling; what was recorded before it stays. -/
theorem sampleEntities_of_tooLarge {before : List (E × AttributeSet)} {e : E}
    {readings : List (Except Failure Value)} {o : Except Failure Value} {st st₁ st' : σ}
    (h : Act.collect (before.map Prod.fst) s.survey st = (.returned readings, st₁))
    (hsmall : ∀ o ∈ readings, isTooLarge o = false) (he : s.survey e st₁ = (.returned o, st'))
    (hlarge : isTooLarge o = true) (attributes : AttributeSet) (rest : List (E × AttributeSet))
    (ms : List Measurement) :
    sampleEntities s.beside Recorder.asNumber (before ++ (e, attributes) :: rest) (ms, st) =
      (.raised .integerTooLarge, ms ++ recordsOf before readings, st') := by
  rw [sampleEntities_append, bind_of_returned (sampleEntities_of_survey h hsmall ms),
    sampleEntities_step he, if_pos hlarge]

variable (s) in
/-- From the states with a property, in none of which a handler raises, every reading of some
entities comes to a value or to an ordinary failure, the printed form of each can be had, and the
property stays. Nor does it matter to the property what is logged. -/
structure EntitySampler.Readable (I : σ → Prop) (entities : List E) : Prop where
  safe : ∀ st, I st → LogsSafely st
  logged : ∀ st c, I st → c.NeverFails → I (HasChannel.setChannel c st)
  shown : ∀ e ∈ entities, ∀ st, I st → ∃ text st', s.shown e st = (.returned text, st') ∧ I st'
  read : ∀ e ∈ entities, ∀ st, I st →
    ∃ o st', Act.caught (s.reading e) st = (.returned o, st') ∧ I st'

namespace EntitySampler.Readable

variable {I : σ → Prop} {entities : List E} (h : s.Readable I entities)

include h in
theorem report_returns {r : LogRecord} (hr : r.IsPlain) {st : σ} (hst : I st) :
    ∃ st', report r st = (.returned (), st') ∧ I st' :=
  ⟨_, report_of_neverFails hr (h.safe st hst),
    h.logged st _ hst (LogChannel.NeverFails.logged (h.safe st hst) r)⟩

include h in
/-- A survey tells what a reading has come to. -/
theorem survey_of_caught {e : E} (he : e ∈ entities) {st st₁ : σ} {o : Except Failure Value}
    (ho : Act.caught (s.reading e) st = (.returned o, st₁)) (hst₁ : I st₁) :
    ∃ st', s.survey e st = (.returned o, st') ∧ I st' := by
  rw [EntitySampler.survey, bind_of_returned ho]
  cases husable : o >>= Value.usable with
  | ok v => exact ⟨st₁, rfl, hst₁⟩
  | error f =>
    obtain ⟨text, st₂, htext, hst₂⟩ := h.shown e he st₁ hst₁
    obtain ⟨st₃, hreport, hst₃⟩ :=
      h.report_returns (LogRecord.samplingRecord_isPlain s.instrument text f) hst₂
    refine ⟨st₃, ?_, hst₃⟩
    exact (bind_of_returned htext).trans (bind_of_returned hreport)

include h in
theorem survey_settles {e : E} (he : e ∈ entities) {o : Except Failure Value}
    (ho : Settles I (Act.caught (s.reading e)) (.ok o)) : Settles I (s.survey e) (.ok o) := by
  intro st hst
  obtain ⟨st₁, hread, hst₁⟩ := ho st hst
  exact h.survey_of_caught he hread hst₁

include h in
theorem survey_returns {e : E} (he : e ∈ entities) {st : σ} (hst : I st) :
    ∃ o st', s.survey e st = (.returned o, st') ∧ I st' := by
  obtain ⟨o, st₁, ho, hst₁⟩ := h.read e he st hst
  exact ⟨o, h.survey_of_caught he ho hst₁⟩

include h in
theorem of_subset {some : List E} (hsome : some ⊆ entities) : s.Readable I some where
  safe := h.safe
  logged := h.logged
  shown e he := h.shown e (hsome he)
  read e he := h.read e (hsome he)

theorem surveys_return (h : s.Readable I entities) {st : σ} (hst : I st) :
    ∃ readings st', Act.collect entities s.survey st = (.returned readings, st') ∧ I st' := by
  induction entities generalizing st with
  | nil => exact ⟨[], st, rfl, hst⟩
  | cons e rest ih =>
    obtain ⟨o, st₁, ho, hst₁⟩ := h.survey_returns List.mem_cons_self hst
    obtain ⟨os, st₂, hos, hst₂⟩ := ih (h.of_subset (List.subset_cons_self e rest)) hst₁
    refine ⟨o :: os, st₂, ?_, hst₂⟩
    rw [collect_cons, bind_of_returned ho, bind_of_returned hos]
    rfl

theorem of_survey (h : s.Readable I entities) {e : E} (he : e ∈ entities) {st st' : σ} (hst : I st)
    {o : Except Failure Value} (hsurvey : s.survey e st = (.returned o, st')) : I st' := by
  obtain ⟨o', st'', hsurvey', hst'⟩ := h.survey_returns he hst
  rw [hsurvey] at hsurvey'
  cases hsurvey'
  exact hst'

theorem of_surveys (h : s.Readable I entities) {st st' : σ} (hst : I st)
    {readings : List (Except Failure Value)}
    (hsurveys : Act.collect entities s.survey st = (.returned readings, st')) : I st' := by
  obtain ⟨readings', st'', hsurveys', hst'⟩ := h.surveys_return hst
  rw [hsurveys] at hsurveys'
  cases hsurveys'
  exact hst'

end EntitySampler.Readable

end Sampling

end AspectAgent
