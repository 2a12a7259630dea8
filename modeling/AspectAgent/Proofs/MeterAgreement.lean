import AspectAgent.Proofs.InstrumentLifecycle
import AspectAgent.Proofs.SteadyCallbacks
import Mathlib.Data.List.Nodup

/-!
# Agreement of the meters

The same registrations, closings and collections are run twice, once over a meter that is collected
from on demand and once over a slotted one. The first keeps every instrument it was ever asked for,
the second has one slot for each name. In every pair of states that is so reached, a collection of
the first and an observation of the second find the same measurements for each name: what the
instrument records that was registered last under the name, if it is still active, and nothing
otherwise. This holds as long as no handler raises on the report of a failing callback.
-/

namespace AspectAgent

open Act HasMetering Relation

/-- The measurements in the samples of a name. -/
def measuredUnder (name : String) (samples : List MetricSample) : List Measurement :=
  (samples.filter (·.name = name)).map fun s => ⟨s.value, s.labels⟩

/-- The answers to the observations of a name. -/
def answersUnder (name : String) (found : List Collection.Observed) :
    List (Except Failure (List Measurement)) :=
  (found.filter (·.instrument.name = name)).map (·.answer)

variable {σ K E : Type} [HasMetering σ K] [HasChannel σ]

/-- The same is seen of two states, and their channels have the same level and handlers. -/
structure Alike (see : σ → E) (st st' : σ) : Prop where
  seen : see st' = see st
  logs : LogsLike (HasChannel.channel st) st'

/-- One step of two runs: the first over a meter that is collected from on demand, the second over a
slotted one. An instrument is not refused by the latter that is registered, and its callback is
steady, and apart from those of active instruments. -/
inductive TwinStep (callbacks : Interpretation K σ) (see : σ → E) (B : Behaviour K E)
    (registry : Nat) : σ × σ → σ × σ → Prop where
  | register {st st' : σ} (i : Instrument) {callback : Option K}
      (hlt : registry < (metering st).registries.length)
      (hgranted : (metering st').meter.refusal? i = none)
      (hsteady : ∀ k ∈ callback, B.Steady callbacks see k)
      (hapart : ∀ k ∈ callback, ∀ r ∈ (metering st).activeOnes, B.Apart r.callback k) :
      TwinStep callbacks see B registry (st, st')
        ((Metering.registering registry i callback st).2,
          (Metering.registering registry i callback st').2)
  | deregister (st st' : σ) (name : String) :
      TwinStep callbacks see B registry (st, st')
        (setMetering ((metering st).deregister registry name).2 st,
          setMetering ((metering st').deregister registry name).2 st')
  | close (st st' : σ) (number : Nat) :
      TwinStep callbacks see B registry (st, st')
        (setMetering ((metering st).close number) st,
          setMetering ((metering st').close number) st')
  | collect {st st₁ : σ} (st' : σ) {time : Value} {samples : List MetricSample}
      (h : Collection.collect callbacks time st = (.returned samples, st₁)) :
      TwinStep callbacks see B registry (st, st') (st₁, (Collection.observeAll callbacks st').2)
  | other {st st' st₁ st₁' : σ} (h : metering st₁ = metering st) (h' : metering st₁' = metering st')
      (halike : Alike see st₁ st₁') : TwinStep callbacks see B registry (st, st') (st₁, st₁')

namespace Metering

variable {m : Metering K} {meter : Meter K} {registry number n : Nat} {name : String}
  {i : Instrument} {k : K} {r : RegisteredInstrument K}

/-- The same instruments and registries over another meter. -/
def withMeter (m : Metering K) (meter : Meter K) : Metering K := { m with meter := meter }

theorem withMeter_close (m : Metering K) (meter : Meter K) (number : Nat) :
    (m.withMeter meter).close number = (m.close number).withMeter meter := by
  unfold close withMeter
  dsimp only
  split
  · rfl
  · split
    · rfl
    · unfold forget find? names
      dsimp only
      split <;> rfl

theorem withMeter_deregister (m : Metering K) (meter : Meter K) (registry : Nat) (name : String) :
    ((m.withMeter meter).deregister registry name).2 =
      ((m.deregister registry name).2).withMeter meter := by
  have hfind : (m.withMeter meter).find? registry name = m.find? registry name := rfl
  unfold deregister
  rw [hfind]
  cases m.find? registry name with
  | none => rfl
  | some number => exact m.withMeter_close meter number

theorem withMeter_added (m : Metering K) (meter : Meter K) (registry : Nat) (i : Instrument)
    (k : K) :
    (m.withMeter meter).added registry i k = (m.added registry i k).withMeter
      (meter.provideWith i [.registered m.registered.length]).2 := rfl

theorem activeOnes_added (m : Metering K) (registry : Nat) (i : Instrument) (k : K) :
    (m.added registry i k).activeOnes = m.activeOnes ++ [⟨i, k, some registry, true⟩] := by
  simp [activeOnes, added, List.filter_append]

theorem mem_activeOnes_close (h : r ∈ (m.close number).activeOnes) : r ∈ m.activeOnes := by
  obtain ⟨n, hn⟩ := mem_activeOnes.mp h
  rw [activeAt_close] at hn
  split at hn
  · cases hn
  · exact mem_activeOnes.mpr ⟨n, hn⟩

/-- Instruments over an on-demand meter, and the same over a slotted one. The active ones were made
by one registry. -/
structure Matched (B : Behaviour K E) (callbacks : Interpretation K σ) (see : σ → E)
    (registry : Nat) (m : Metering K) (meter : Meter K) : Prop where
  inStep : m.InStep
  slots : (m.withMeter meter).Slots
  made : ∀ r ∈ m.activeOnes, r.registry = some registry
  rules : B.Rules callbacks see m

namespace Matched

variable {B : Behaviour K E} {callbacks : Interpretation K σ} {see : σ → E}
  (h : Matched B callbacks see registry m meter)
include h

theorem rules_withMeter : B.Rules callbacks see (m.withMeter meter) :=
  ⟨h.rules.latest, h.rules.steady, h.rules.apart⟩

theorem close (number : Nat) : Matched B callbacks see registry (m.close number) meter where
  inStep := h.inStep.close number
  slots := m.withMeter_close meter number ▸ h.slots.close number
  made r hr := h.made r (mem_activeOnes_close hr)
  rules :=
    { latest := h.rules.latest.close number
      steady := fun r hr => h.rules.steady r (mem_activeOnes_close hr)
      apart := fun r hr r' hr' =>
        h.rules.apart r (mem_activeOnes_close hr) r' (mem_activeOnes_close hr') }

/-- A name that the registry has not in use is that of no active instrument. -/
theorem ne_name (hfree : m.find? registry i.name = none) :
    ∀ r ∈ m.activeOnes, r.instrument.name ≠ i.name := by
  intro r hr hname
  obtain ⟨n, hn⟩ := mem_activeOnes.mp hr
  obtain ⟨hregistered, hactive⟩ := Option.filter_eq_some_iff.mp hn
  have hfound := (h.inStep.named registry i.name n).mpr
    ⟨r, hregistered, hactive, h.made r hr, hname⟩
  rw [hfree] at hfound
  cases hfound

theorem added (hlt : registry < m.registries.length) (hfree : m.find? registry i.name = none)
    (hsteady : B.Steady callbacks see k) (hapart : ∀ r ∈ m.activeOnes, B.Apart r.callback k) :
    Matched B callbacks see registry (m.added registry i k)
      (meter.provideWith i [.registered m.registered.length]).2 := by
  have hcases : ∀ r ∈ (m.added registry i k).activeOnes,
      r ∈ m.activeOnes ∨ r = ⟨i, k, some registry, true⟩ := by
    intro r hr
    rw [activeOnes_added] at hr
    exact (List.mem_append.mp hr).imp_right List.mem_singleton.mp
  constructor
  · exact h.inStep.added hlt hfree k
  · exact m.withMeter_added meter registry i k ▸ h.slots.added registry i k
  · intro r hr
    rcases hcases r hr with hr | rfl
    · exact h.made r hr
    · rfl
  constructor
  · exact h.rules.latest.added (h.ne_name hfree) registry k
  · intro r hr
    rcases hcases r hr with hr | rfl
    · exact h.rules.steady r hr
    · exact hsteady
  · intro r hr r' hr' hne
    rcases hcases r hr with hr | rfl
    · rcases hcases r' hr' with hr' | rfl
      · exact h.rules.apart r hr r' hr' hne
      · exact hapart r hr
    · rcases hcases r' hr' with hr' | rfl
      · exact (hapart r' hr').symm
      · exact absurd rfl hne

end Matched

end Metering

/-! ## Runs -/

variable {callbacks : Interpretation K σ} {see : σ → E} {B : Behaviour K E} {registry : Nat}
  {m m' : Metering K} {channel : LogChannel} {e : E} {st st' st₁ st₁' : σ}

theorem alike_of_ready (h : Ready see m channel e st) (h' : Ready see m' channel e st') :
    Alike see st st' where
  seen := h'.seen.trans h.seen.symm
  logs := ⟨h'.logs.handlers.trans h.logs.handlers.symm, h'.logs.level.trans h.logs.level.symm⟩

namespace Ready

variable [LawfulMetering σ] (hsee : LawfulView see)
include hsee

theorem setMetering (h : Ready see m channel e st) (m' : Metering K) :
    Ready see m' channel e (HasMetering.setMetering m' st) where
  metering := LawfulMetering.metering_setMetering m' st
  seen := (hsee.setMetering m' st).trans h.seen
  logs := ⟨by rw [LawfulMetering.channel_setMetering]; exact h.logs.handlers,
    by rw [LawfulMetering.channel_setMetering]; exact h.logs.level⟩

/-- A registration under a free name is made, whatever becomes of its record. -/
theorem registering (h : Ready see m channel e st) {i : Instrument}
    (hfree : m.find? registry i.name = none) (hgranted : m.meter.refusal? i = none) (k : K) :
    Ready see (m.added registry i k) channel e (Metering.registering registry i (some k) st).2 := by
  obtain ⟨st₁, hst₁, hreport⟩ := (h.setMetering hsee (m.added registry i k)).report hsee
    (LogRecord.registeredRecord_isPlain i.name)
  have hrun : Metering.registering registry i (some k) st =
      (AspectAgent.report (Metering.registeredRecord i.name) >>= fun _ => pure m.registered.length)
        (HasMetering.setMetering (m.added registry i k) st) := by
    rw [Metering.registering, bind_of_returned (read_apply st), h.metering,
      Metering.register_of_free hfree hgranted]
    rfl
  rw [hrun, bind_apply, hreport]
  cases channel.verdict (Metering.registeredRecord i.name) <;> exact hst₁

end Ready

/-- Two states that are alike but for their meters, over which nothing has been registered: the
first is collected from on demand, the second is slotted. -/
structure Beginning (see : σ → E) (st st' : σ) : Prop where
  unused : (metering st).Unused
  meterings : metering st' = (metering st).withMeter (metering st').meter
  slotted : (metering st').meter.style = .slotted
  instruments : (metering st').meter.instruments = []
  alike : Alike see st st'

/-- Two states of the two runs: the same instruments have been registered, and but for the meters
the states are alike. -/
structure Twins (B : Behaviour K E) (callbacks : Interpretation K σ) (see : σ → E) (registry : Nat)
    (st st' : σ) : Prop where
  meterings : metering st' = (metering st).withMeter (metering st').meter
  matched : (metering st).Matched B callbacks see registry (metering st').meter
  alike : Alike see st st'

namespace Twins

theorem of_ready {meter : Meter K} (hmatched : m.Matched B callbacks see registry meter)
    (h : Ready see m channel e st) (h' : Ready see (m.withMeter meter) channel e st') :
    Twins B callbacks see registry st st' where
  meterings := by rw [h.metering, h'.metering]; rfl
  matched := by rw [h.metering, h'.metering]; exact hmatched
  alike := alike_of_ready h h'

theorem of_beginning (h : Beginning see st st') : Twins B callbacks see registry st st' := by
  have hnone : ∀ r, r ∉ (metering st).activeOnes := by
    intro r hr
    rw [Metering.activeOnes, h.unused.registered] at hr
    cases hr
  have hrules : B.Rules callbacks see (metering st) :=
    { latest := .of_empty h.unused.registered
      steady := fun r hr => absurd hr (hnone r)
      apart := fun r hr => absurd hr (hnone r) }
  have hmatched : (metering st).Matched B callbacks see registry (metering st').meter :=
    { inStep := .of_unused h.unused
      slots := .of_empty h.slotted h.instruments h.unused.registered
      made := fun r hr => absurd hr (hnone r)
      rules := hrules }
  exact ⟨h.meterings, hmatched, h.alike⟩

/-- The two states, by the meter of the second and by what they have in common. -/
theorem ready (h : Twins B callbacks see registry st st') :
    Ready see (metering st) (HasChannel.channel st) (see st) st ∧
      Ready see ((metering st).withMeter (metering st').meter) (HasChannel.channel st) (see st)
        st' :=
  ⟨⟨rfl, rfl, logsLike_channel st⟩, ⟨h.meterings, h.alike.seen, h.alike.logs⟩⟩

variable [LawfulMetering σ] (hsee : LawfulView see)
include hsee

/-- A step keeps the two runs together. -/
theorem step (h : Twins B callbacks see registry st st')
    (hstep : TwinStep callbacks see B registry (st, st') (st₁, st₁')) :
    Twins B callbacks see registry st₁ st₁' := by
  obtain ⟨hst, hst'⟩ := h.ready
  cases hstep with
  | @register _ _ i callback hlt hgranted hsteady hapart =>
    cases callback with
    | none => exact h
    | some k =>
      cases hfound : (metering st).find? registry i.name with
      | some number =>
        have hfound' : (metering st').find? registry i.name = some number := by
          rw [h.meterings]
          exact hfound
        rw [Metering.registering_of_taken hfound, Metering.registering_of_taken hfound']
        exact h
      | none =>
        refine of_ready (h.matched.added hlt hfound (hsteady k rfl) (hapart k rfl))
          (hst.registering hsee hfound
            (Meter.refusal?_of_onDemand h.matched.inStep.onDemand i) k) ?_
        exact hst'.registering hsee (m := (metering st).withMeter _) hfound hgranted k
  | deregister _ _ name =>
    rw [h.meterings, Metering.withMeter_deregister]
    refine of_ready ?_ (hst.setMetering hsee _) (hst'.setMetering hsee _)
    rcases (metering st).deregister_eq registry name with hsame | ⟨number, hclose⟩
    · rw [hsame]
      exact h.matched
    · rw [hclose]
      exact h.matched.close number
  | close _ _ number =>
    rw [h.meterings, Metering.withMeter_close]
    exact of_ready (h.matched.close number) (hst.setMetering hsee _) (hst'.setMetering hsee _)
  | @collect _ _ _ time samples hrun =>
    have hcollect := Collection.collect_leads hsee h.matched.rules h.matched.inStep
      (HasChannel.channel st) time (see st)
    have hobserve := Collection.observeAll_leads hsee h.matched.rules_withMeter h.matched.slots
      (HasChannel.channel st) (see st)
    rcases hcollect st hst with ⟨hcollected, st₂, hst₂, hreturned⟩ | ⟨-, f, st₂, hraised⟩
    · cases hrun.symm.trans hreturned
      obtain ⟨st₂', hst₂', hfound⟩ := hobserve.returns
        (fun r hr f hf => Behaviour.isOrdinary_of_heard (hcollected r hr) hf) hst'
      rw [hfound]
      exact of_ready h.matched hst₂ hst₂'
    · rw [hrun] at hraised
      cases hraised
  | other hsame hsame' halike =>
    exact ⟨by rw [hsame, hsame']; exact h.meterings, by rw [hsame, hsame']; exact h.matched, halike⟩

theorem steps (h : Twins B callbacks see registry st st')
    (hsteps : ReflTransGen (TwinStep callbacks see B registry) (st, st') (st₁, st₁')) :
    Twins B callbacks see registry st₁ st₁' := by
  suffices hall : ∀ p, ReflTransGen (TwinStep callbacks see B registry) (st, st') p →
      Twins B callbacks see registry p.1 p.2 from hall (st₁, st₁') hsteps
  intro p hp
  induction hp with
  | refl => exact h
  | tail _ hstep ih => exact ih.step hsee hstep

end Twins

/-! ## What the two meters find for a name -/

theorem measuredUnder_samples (name : String) (i : Instrument) (time : Value)
    (ms : List Measurement) :
    measuredUnder name (i.samples time ms) = if i.name = name then ms else [] := by
  rw [measuredUnder, Instrument.samples, List.filter_map, List.map_map]
  by_cases hname : i.name = name
  · rw [if_pos hname, List.filter_eq_self.mpr fun x _ => by simp [hname]]
    exact List.map_id ms
  · rw [if_neg hname, List.filter_eq_nil_iff.mpr fun x _ => by simp [hname]]
    rfl

theorem measuredUnder_flatMap (name : String) (time : Value) (rs : List (RegisteredInstrument K))
    (ms : RegisteredInstrument K → List Measurement) :
    measuredUnder name (rs.flatMap fun r => r.instrument.samples time (ms r)) =
      (rs.filter fun r => r.instrument.name = name).flatMap ms := by
  have happend : ∀ xs ys, measuredUnder name (xs ++ ys) =
      measuredUnder name xs ++ measuredUnder name ys := by
    intro xs ys
    rw [measuredUnder, List.filter_append, List.map_append]
    rfl
  induction rs with
  | nil => rfl
  | cons r rest ih =>
    rw [List.flatMap_cons, happend, measuredUnder_samples, ih]
    by_cases hname : r.instrument.name = name <;> simp [hname]

/-- The samples of a name are those of the active instrument of this name. -/
theorem measuredUnder_activeOnes (hlatest : m.Latest)
    (hsteady : ∀ r ∈ m.activeOnes, B.Steady callbacks see r.callback) (time : Value) (e : E)
    (name : String) :
    (measuredUnder name (m.activeOnes.flatMap fun r => r.instrument.samples time
      (Measurement.numbered (B.records r.callback e)))).map Except.ok =
        (B.shown e (m.current name)).map Measurement.converted := by
  rw [measuredUnder_flatMap, hlatest.filter_eq_current]
  cases hcurrent : m.current name with
  | none => rfl
  | some r =>
    have hmem := (Metering.of_current hcurrent).1
    simpa [Behaviour.shown] using Measurement.map_numbered ((hsteady r hmem).representable e)

/-- The answers for a name are those of the instrument of this name, if there is one. -/
theorem answersUnder_instruments (hslots : m.Slots)
    (answer : String → Except Failure (List Measurement)) (name : String) :
    answersUnder name (m.meter.instruments.map fun x => ⟨x.instrument, answer x.instrument.name⟩) =
      if name ∈ m.givenNames then [answer name] else [] := by
  have hnames : answersUnder name
      (m.meter.instruments.map fun x => ⟨x.instrument, answer x.instrument.name⟩) =
        ((m.meter.instruments.map fun x => x.instrument.name).filter (· = name)).map answer := by
    rw [answersUnder, List.filter_map, List.filter_map, List.map_map, List.map_map]
    rfl
  rw [hnames, List.filter_eq, List.map_replicate]
  by_cases hgiven : name ∈ m.givenNames
  · rw [if_pos hgiven, List.count_eq_one_of_mem hslots.distinct (hslots.given name hgiven)]
    rfl
  · rw [if_neg hgiven, List.count_eq_zero_of_not_mem fun h => hgiven (hslots.mem_givenNames.mp h)]
    rfl

/-- **Agreement of the meters.** The same registrations with one registry, deregistrations, closings
and collections are run over a meter that is collected from on demand and over a slotted one. The
callbacks record numbers that can be had as floating-point numbers, and then return or fail in an
ordinary way; they may keep something for the next time, which callbacks of other names do not see.

If then no handler raises on the report of a callback that fails, a collection of the first meter
and an observation of the second return, and for each name they find the same measurements in the
same order: all that the active instrument of the name records, even if it fails after that, and
nothing if there is none. The second meter is asked once for each name that was ever given.

If a handler does raise on the report of an active instrument, the collection reports this once
more: it finds the same as ever if that succeeds each time, and raises if it does not. The
observation still finds the same for all other names, if what the handlers raise is ordinary, and
for this one the failure.

The active instrument of a name is the one that was registered last under it, unless this is closed.
-/
theorem meter_agreement [LawfulMetering σ] (hsee : LawfulView see) {st₀ st₀' : σ}
    (hbeginning : Beginning see st₀ st₀')
    (hsteps : ReflTransGen (TwinStep callbacks see B registry) (st₀, st₀') (st, st'))
    (time : Value) :
    ((∀ r ∈ (metering st).activeOnes,
        B.heard (HasChannel.channel st) (see st) (some r) = .ok ()) →
      ∃ samples st₁ found st₁',
        Collection.collect callbacks time st = (.returned samples, st₁) ∧
        Collection.observeAll callbacks st' = (.returned found, st₁') ∧
        ∀ name,
          (measuredUnder name samples).map Except.ok =
            (B.shown (see st) ((metering st).current name)).map Measurement.converted ∧
          answersUnder name found =
            if name ∈ (metering st).givenNames then
              [.ok (B.shown (see st) ((metering st).current name))]
            else []) ∧
    ((∀ r ∈ (metering st).activeOnes,
        B.collected (HasChannel.channel st) (see st) (some r) = .ok ()) →
      ∃ samples st₁, Collection.collect callbacks time st = (.returned samples, st₁) ∧
        ∀ name, (measuredUnder name samples).map Except.ok =
          (B.shown (see st) ((metering st).current name)).map Measurement.converted) ∧
    (∀ r ∈ (metering st).activeOnes,
        B.collected (HasChannel.channel st) (see st) (some r) ≠ .ok () →
      ∃ f st₁, Collection.collect callbacks time st = (.raised f, st₁)) ∧
    ((∀ r ∈ (metering st).activeOnes, ∀ f,
        B.heard (HasChannel.channel st) (see st) (some r) = .error f → f.isOrdinary = true) →
      ∃ found st₁', Collection.observeAll callbacks st' = (.returned found, st₁') ∧
        ∀ name, answersUnder name found =
          if name ∈ (metering st).givenNames then
            [B.answer (HasChannel.channel st) (see st) ((metering st).current name)]
          else []) ∧
    ∀ n r, (metering st).registered[n]? = some r →
      IsLast (metering st).givenNames r.instrument.name n →
      (metering st).current r.instrument.name = if r.active then some r else none := by
  have htwins := (Twins.of_beginning hbeginning).steps hsee hsteps
  obtain ⟨hst, hst'⟩ := htwins.ready
  have hcollect := Collection.collect_leads hsee htwins.matched.rules htwins.matched.inStep
    (HasChannel.channel st) time (see st)
  have hobserve := Collection.observeAll_leads hsee htwins.matched.rules_withMeter
    htwins.matched.slots (HasChannel.channel st) (see st)
  have hanswers := answersUnder_instruments htwins.matched.slots fun name =>
    B.answer (HasChannel.channel st) (see st) ((metering st).current name)
  have hsamples : (∀ r ∈ (metering st).activeOnes,
        B.collected (HasChannel.channel st) (see st) (some r) = .ok ()) →
      ∃ samples st₁, Collection.collect callbacks time st = (.returned samples, st₁) ∧
        ∀ name, (measuredUnder name samples).map Except.ok =
          (B.shown (see st) ((metering st).current name)).map Measurement.converted := by
    intro hcollected
    obtain ⟨st₁, -, hreturned⟩ := hcollect.returns hcollected hst
    exact ⟨_, st₁, hreturned, measuredUnder_activeOnes htwins.matched.rules.latest
      htwins.matched.rules.steady time _⟩
  have hfound : (∀ r ∈ (metering st).activeOnes, ∀ f,
        B.heard (HasChannel.channel st) (see st) (some r) = .error f → f.isOrdinary = true) →
      ∃ found st₁', Collection.observeAll callbacks st' = (.returned found, st₁') ∧
        ∀ name, answersUnder name found =
          if name ∈ (metering st).givenNames then
            [B.answer (HasChannel.channel st) (see st) ((metering st).current name)]
          else [] := by
    intro hordinary
    obtain ⟨st₁', -, hreturned⟩ := hobserve.returns hordinary hst'
    exact ⟨_, st₁', hreturned, hanswers⟩
  refine ⟨fun hheard => ?_, hsamples, fun r hr hf => ?_, hfound, fun n r hr hlast => ?_⟩
  · obtain ⟨samples, st₁, hcollected, hmeasured⟩ :=
      hsamples fun r hr => Behaviour.collected_of_heard (hheard r hr)
    obtain ⟨found, st₁', hobserved, hanswered⟩ :=
      hfound fun r hr f hf => by rw [hheard r hr] at hf; cases hf
    refine ⟨samples, st₁, found, st₁', hcollected, hobserved, fun name => ⟨hmeasured name, ?_⟩⟩
    have hok : B.heard (HasChannel.channel st) (see st) ((metering st).current name) = .ok () := by
      cases hcurrent : (metering st).current name with
      | none => rfl
      | some r => exact hheard r (Metering.of_current hcurrent).1
    rw [hanswered, Behaviour.answer, hok]
    rfl
  · exact hcollect.raises (fun hcollected => hf (hcollected r hr)) hst
  · rw [← htwins.matched.rules.latest.activeAt_eq_current hlast, Metering.activeAt, hr,
      Option.filter_some]

/-! ## Scripts -/

namespace Bench

variable {C R : Type} (run : C → Act (Bench C R) R)

/-- What a script records, and how it ends, if it runs no commands. -/
def played : List (ScriptItem C) → List Measurement × Except Failure Unit
  | [] => ([], .ok ())
  | .record v labels :: rest => (⟨v, Table.ofPairs labels⟩ :: (played rest).1, (played rest).2)
  | .fail f :: _ => ([], .error f)
  | .perform _ :: rest => played rest

/-- What callbacks do that are scripts. -/
def scripts : Behaviour (Callback C) Unit where
  records
    | .script items, _ => (played items).1
    | _, _ => []
  ends
    | .script items, _ => (played items).2
    | _, _ => .ok ()
  after _ e := e

theorem scripts_apart (k k' : Callback C) : scripts.Apart k k' :=
  ⟨fun _ => rfl, fun _ => rfl, fun _ => rfl, fun _ => rfl, fun _ => rfl⟩

/-- The item records a number that can be had as a floating-point number, or fails in an ordinary
way. -/
def IsSteadyItem : ScriptItem C → Prop
  | .record v labels =>
    (∃ x, v.toBinary64 = .ok x) ∧ ∃ set, AttributeSet.of? labels = .ok set
  | .fail f => f.isOrdinary = true
  | .perform _ => False

variable {items : List (ScriptItem C)}

theorem runScript_of_steady (sink : Sink (Recorder (Bench C R)))
    (arrives : List Measurement → List Measurement) (hnothing : arrives [] = [])
    (harrives : ∀ m ms, arrives (m :: ms) = arrives [m] ++ arrives ms)
    (hsink : ∀ v labels x ms b, v.toBinary64 = .ok x →
      sink v labels (ms, b) = (.returned (), ms ++ arrives [⟨v, labels⟩], b))
    (h : ∀ item ∈ items, IsSteadyItem item) (ms : List Measurement) (b : Bench C R) :
    runScript run sink items (ms, b) =
      (Outcome.ofExcept (played items).2, ms ++ arrives (played items).1, b) := by
  induction items generalizing ms with
  | nil =>
    rw [played, hnothing, List.append_nil]
    rfl
  | cons item rest ih =>
    have hrest := ih fun y hy => h y (List.mem_cons_of_mem item hy)
    cases item with
    | record v labels =>
      obtain ⟨⟨x, hx⟩, set, hset⟩ := h _ List.mem_cons_self
      have hentries : set.entries = Table.ofPairs labels := by
        unfold AttributeSet.of? AttributeSet.checked at hset
        split at hset <;> cases hset
        rfl
      rw [runScript]
      simp only [hset]
      rw [played, harrives, ← List.append_assoc, ← hentries]
      exact (bind_of_returned (hsink v set.entries x ms b hx)).trans (hrest _)
    | fail f =>
      rw [played, hnothing, List.append_nil]
      rfl
    | perform c => exact (h _ List.mem_cons_self).elim

theorem played_of_steady (h : ∀ item ∈ items, IsSteadyItem item) :
    (∀ m ∈ (played items).1, ∃ x, m.value.toBinary64 = .ok x) ∧
      ∀ f, (played items).2 = .error f → f.isOrdinary = true := by
  induction items with
  | nil => exact ⟨nofun, nofun⟩
  | cons item rest ih =>
    obtain ⟨hnumbers, hends⟩ := ih fun y hy => h y (List.mem_cons_of_mem item hy)
    cases item with
    | record v labels =>
      refine ⟨fun m hm => ?_, hends⟩
      rcases List.mem_cons.mp hm with rfl | hm
      · exact (h _ List.mem_cons_self).1
      · exact hnumbers m hm
    | fail f =>
      refine ⟨nofun, fun f' hf => ?_⟩
      cases hf
      exact h _ List.mem_cons_self
    | perform c => exact (h _ List.mem_cons_self).elim

theorem steady_script (h : ∀ item ∈ items, IsSteadyItem item) :
    scripts.Steady (interpret run) (fun _ => ()) (.script items) where
  representable _ := (played_of_steady h).1
  ordinary _ := (played_of_steady h).2
  asIs _ _ _ b hb :=
    ⟨b, hb, runScript_of_steady run Recorder.asIs id rfl (fun _ _ => rfl)
      (fun _ _ _ _ _ _ => rfl) h [] b⟩
  asNumber _ _ _ b hb := by
    refine ⟨b, hb, runScript_of_steady run Recorder.asNumber Measurement.numbered rfl
      (fun m ms => ?_) (fun v labels x ms b hx => ?_) h [] b⟩
    · exact List.filterMap_append (l := [m])
    · have hone : Measurement.numbered [⟨v, labels⟩] = [⟨.float x, labels⟩] := by
        simp [Measurement.numbered, Measurement.converted, hx, Except.map, Except.toOption]
      rw [Recorder.asNumber_of_ok hx, hone]

/-! ## Two runs -/

/-- No commands are run. -/
def idle : Unit → Act (Bench Unit Unit) Unit := fun _ => Act.give ()

/-- A callback that records one measurement and then returns or fails. -/
def gaugeOf (v : Value) (label : String) (ending : Option Failure) : Callback Unit :=
  .script (.record v [("pool", .text label)] :: (ending.map ScriptItem.fail).toList)

theorem steady_gaugeOf {v : Value} (hv : ∃ x, v.toBinary64 = .ok x) (label : String)
    {ending : Option Failure} (hending : ∀ f ∈ ending, f.isOrdinary = true) :
    scripts.Steady (interpret idle) (fun _ => ()) (gaugeOf v label ending) := by
  refine steady_script idle fun item hitem => ?_
  rcases List.mem_cons.mp hitem with rfl | hitem
  · exact ⟨hv, _, rfl⟩
  · rw [Option.mem_toList] at hitem
    obtain ⟨f, hf, rfl⟩ := Option.map_eq_some_iff.mp hitem
    exact hending f hf

def older : Callback Unit := gaugeOf (.float .one) "old" none

def newer : Callback Unit := gaugeOf (.int 1) "new" (some .readingNaN)

def failing : Callback Unit := gaugeOf (.float .one) "hot" (some .readingNaN)

theorem steady_older : scripts.Steady (interpret idle) (fun _ => ()) older :=
  steady_gaugeOf ⟨.one, rfl⟩ "old" nofun

theorem toBinary64_one : (Value.int 1).toBinary64 = .ok .one := by
  have hone : Binary64.ofInt? 1 = some .one := by decide +kernel
  rw [Value.toBinary64_int, hone, Failure.ifNone]

/-- A pool is registered, something is done, and the pool is deregistered and registered anew. -/
def renewed (between : Bench Unit Unit → Bench Unit Unit) (b : Bench Unit Unit) : Bench Unit Unit :=
  let first := between (Metering.registering 0 pool (some older) b).2
  let closed := setMetering (first.metering.deregister 0 "pool").2 first
  (Metering.registering 0 pool (some newer) closed).2

/-- A bench over a slotted meter. -/
def slotted : Bench Unit Unit := { metering := { meter := { style := .slotted } } }

theorem meter_agreement_of_renewed :
    let b := renewed (fun b => (Collection.collect (interpret idle) .null b).2) {}
    let b' := renewed (fun b => (Collection.observeAll (interpret idle) b).2) slotted
    ∃ samples b₁ found b₁',
      Collection.collect (interpret idle) .null b = (.returned samples, b₁) ∧
      Collection.observeAll (interpret idle) b' = (.returned found, b₁') ∧
      measuredUnder "pool" samples = [⟨.float .one, [("pool", .text "new")]⟩] ∧
      answersUnder "pool" found = [.ok [⟨.int 1, [("pool", .text "new")]⟩]] := by
  intro b b'
  have hsee : LawfulView (fun _ : Bench Unit Unit => ()) := ⟨fun _ _ => rfl, fun _ _ => rfl⟩
  have hbeginning : Beginning (fun _ => ()) ({} : Bench Unit Unit) slotted :=
    ⟨⟨rfl, rfl, rfl, by decide⟩, rfl, rfl, rfl, rfl, rfl, rfl⟩
  have hcollected : Collection.collect (interpret idle) .null
      (Metering.registering 0 pool (some older) {}).2 =
        (.returned [⟨"pool", .null, .float .one, [("pool", .text "old")]⟩],
          (Collection.collect (interpret idle) .null
            (Metering.registering 0 pool (some older) {}).2).2) := rfl
  have hsteps : ReflTransGen (TwinStep (interpret idle) (fun _ => ()) scripts 0)
      ({}, slotted) (b, b') := by
    refine .tail (.tail (.tail (.tail .refl
      (.register pool Nat.one_pos rfl (fun k hk => ?_) fun k _ r _ => scripts_apart _ _))
      (.collect _ hcollected)) (.deregister _ _ "pool"))
      (.register pool (by decide) rfl (fun k hk => ?_) fun k _ r _ => scripts_apart _ _)
    · cases hk
      exact steady_older
    · cases hk
      exact steady_gaugeOf ⟨.one, toBinary64_one⟩ "new" fun f hf => by cases hf; rfl
  obtain ⟨hagree, -⟩ := meter_agreement hsee hbeginning hsteps .null
  have hheard : ∀ r ∈ (HasMetering.metering b).activeOnes,
      scripts.heard (HasChannel.channel b) () (some r) = .ok () := by
    intro r hr
    have hactive : (HasMetering.metering b).activeOnes = [⟨pool, newer, some 0, true⟩] := rfl
    rw [hactive] at hr
    cases List.mem_singleton.mp hr
    rfl
  obtain ⟨samples, b₁, found, b₁', hsamples, hfound, hnames⟩ := hagree hheard
  obtain ⟨hsampled, hanswered⟩ := hnames "pool"
  have hshown : scripts.shown () ((HasMetering.metering b).current "pool") =
      [⟨.int 1, [("pool", .text "new")]⟩] := rfl
  have hconverted : (⟨.int 1, [("pool", .text "new")]⟩ : Measurement).converted =
      .ok ⟨.float .one, [("pool", .text "new")]⟩ := by
    rw [Measurement.converted, toBinary64_one]
    rfl
  refine ⟨samples, b₁, found, b₁', hsamples, hfound, ?_, hanswered⟩
  rw [hshown, List.map_singleton, hconverted, ← List.map_singleton] at hsampled
  exact List.map_injective_iff.mpr (fun _ _ => Except.ok.inj) hsampled

/-- A bench over a meter, with a handler that raises. -/
def withFaultyHandler (style : MeterStyle) (f : Failure) : Bench Unit Unit :=
  .initial { style := style } warningLevel (some f)

/-- Two pools are registered, of which the first fails when it is sampled. -/
def withFailingPool (b : Bench Unit Unit) : Bench Unit Unit :=
  let first := (Metering.registering 0 pool (some failing) b).2
  (Metering.registering 0 ⟨"heap", "By", ""⟩ (some older) first).2

/-- The handler raises on the report of the first pool. What this has recorded is lost to both
meters; to the one that is collected from on demand, so is what the second pool has to record. -/
theorem meters_differ_of_faulty :
    let f := Failure.requested .runtime (some "handler broken")
    let b := withFailingPool (withFaultyHandler .onDemand f)
    let b' := withFailingPool (withFaultyHandler .slotted f)
    ReflTransGen (TwinStep (interpret idle) (fun _ => ()) scripts 0)
      (withFaultyHandler .onDemand f, withFaultyHandler .slotted f) (b, b') ∧
    Beginning (fun _ => ()) (withFaultyHandler .onDemand f) (withFaultyHandler .slotted f) ∧
    (Collection.collect (interpret idle) .null b).1 = .raised f ∧
    (Collection.observeAll (interpret idle) b').1 = .returned [⟨pool, .error f⟩,
      ⟨⟨"heap", "By", ""⟩, .ok [⟨.float .one, [("pool", .text "old")]⟩]⟩] := by
  intro f b b'
  refine ⟨?_, ⟨⟨rfl, rfl, rfl, by decide⟩, rfl, rfl, rfl, rfl, rfl, rfl⟩, rfl, rfl⟩
  · refine .tail (.tail .refl
      (.register pool (by decide) rfl (fun k hk => ?_) fun k _ r _ => scripts_apart _ _))
      (.register _ (by decide) rfl (fun k hk => ?_) fun k _ r _ => scripts_apart _ _)
    · cases hk
      exact steady_gaugeOf ⟨.one, rfl⟩ "hot" fun f hf => by cases hf; rfl
    · cases hk
      exact steady_older

end Bench

end AspectAgent
