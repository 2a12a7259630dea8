import AspectAgent.Metrics.Collection
import AspectAgent.Proofs.Contract

/-!
# Emitting instruments

An instrument emits where nothing is installed on it but an active registration of a callback. So it
does once it was registered on an on-demand meter. A collection then finds at its place what the
callback records, also if the callback fails in an ordinary way after it has recorded something.
-/

namespace AspectAgent

open Act

namespace Meter

variable {K : Type} {m : Meter K}

/-- Nothing stands behind a meter that is collected from on demand, so nothing is refused. -/
theorem refusal?_of_onDemand (h : m.style = .onDemand) (i : Instrument) : m.refusal? i = none := by
  rw [refusal?, h]

theorem create_of_granted {i : Instrument} (h : m.refusal? i = none) (xs : List (Installed K)) :
    m.create i xs = .ok (m.provideWith i xs) := by
  rw [create, h]

end Meter

namespace Metering

variable {K : Type}

/-- At a place of the meter stands an instrument, and on it is installed nothing but an active
registration of a callback. -/
def Emits (m : Metering K) (place number : Nat) (i : Instrument) (k : K) : Prop :=
  m.meter.instruments[place]? = some ⟨i, [.registered number]⟩ ∧
    ∃ registry, m.registered[number]? = some ⟨i, k, registry, true⟩

theorem instruments_provideWith {m : Meter K} (h : m.style = .onDemand) (i : Instrument)
    (x : Installed K) : (m.provideWith i [x]).2.instruments = m.instruments ++ [⟨i, [x]⟩] := by
  have hplace : m.place? i.name = none := by rw [Meter.place?, h]
  have hmodify : ∀ made : MeterInstrument K, (m.instruments ++ [made]).modify m.instruments.length
      (fun j => { j with installed := j.installed ++ [x] }) =
        m.instruments ++ [{ made with installed := made.installed ++ [x] }] := by
    intro made
    rw [List.modify_eq_take_cons_drop (by simp)]
    simp
  simpa [Meter.provideWith, Meter.provide, hplace, Meter.install, h] using hmodify ⟨i, []⟩

theorem emits_of_register {m m' : Metering K} {registry number : Nat} {i : Instrument} {k : K}
    (hstyle : m.meter.style = .onDemand) (h : m.register registry i (some k) = .ok (number, m')) :
    m'.Emits m.meter.instruments.length number i k := by
  unfold register at h
  dsimp only at h
  split at h
  · cases h
  · rw [Meter.create_of_granted (Meter.refusal?_of_onDemand hstyle i)] at h
    cases h
    constructor
    · rw [instruments_provideWith hstyle, List.getElem?_concat_length]
    · exact ⟨some registry, List.getElem?_concat_length⟩

end Metering

/-- The samples of some measurements of an instrument. -/
def Instrument.samples (i : Instrument) (time : Value) (ms : List Measurement) :
    List MetricSample :=
  ms.map fun m => ⟨i.name, time, m.value, m.labels⟩

namespace Collection

variable {K σ : Type} [HasMetering σ K] [HasChannel σ]
variable {callbacks : Interpretation K σ} {time : Value} {place number : Nat} {i : Instrument}
variable {k : K} {ms : List Measurement} {st st' st'' : σ}

/-- A place on which one thing is installed is sampled by sampling this. -/
theorem sampleInstrument_of_installed {x : Installed K}
    (h : (HasMetering.metering st).meter.instruments[place]? = some ⟨i, [x]⟩) :
    sampleInstrument callbacks time place st = sampleInstalled callbacks time i.name x st := by
  have hinstrument : sampleInstrument callbacks time place st =
      (Act.collect [x] (sampleInstalled callbacks time i.name) >>=
        fun samples => pure samples.flatten) st := by
    unfold sampleInstrument
    rw [bind_apply, read_apply]
    simp only [h]
  rw [hinstrument, collect_singleton, bind_assoc]
  simp

private theorem sampleInstrument_of_ended (h : (HasMetering.metering st).Emits place number i k)
    (hended : runInstalled callbacks Recorder.asNumber (.registered number) ([], st) =
      (.returned (), ms, st')) :
    sampleInstrument callbacks time place st = (.returned (i.samples time ms), st') := by
  have hsampled : sampleInstalled callbacks time i.name (.registered number) st =
      (.returned (i.samples time ms), st') := by
    have hrun : Recorder.run (runInstalled callbacks Recorder.asNumber (.registered number)) st =
        (.returned (none, ms), st') := by rw [Recorder.run, hended]
    rw [sampleInstalled, Recorder.runOrdinary, bind_assoc, bind_of_returned hrun]
    rfl
  exact (sampleInstrument_of_installed h.1).trans hsampled

private theorem runInstalled_of_emits (h : (HasMetering.metering st).Emits place number i k) :
    runInstalled callbacks Recorder.asNumber (.registered number) (ms, st) =
      orElse (callbacks k Recorder.asNumber)
        (fun f => report (Sampling.faultRecord i.name "None" f)) (ms, st) := by
  obtain ⟨-, registry, hr⟩ := h
  have hregistered : (HasMetering.metering (ms, st)).registered[number]? =
      some ⟨i, k, registry, true⟩ := hr
  rw [runInstalled, bind_of_returned (read_apply (ms, st)), hregistered]
  rfl

/-- What a callback records is sampled. -/
theorem sampleInstrument_of_returned (h : (HasMetering.metering st).Emits place number i k)
    (hrun : callbacks k Recorder.asNumber ([], st) = (.returned (), ms, st')) :
    sampleInstrument callbacks time place st = (.returned (i.samples time ms), st') := by
  refine sampleInstrument_of_ended h ?_
  rw [runInstalled_of_emits h, orElse, hrun]

/-- What a callback has recorded when it fails is sampled, and the failure is reported. -/
theorem sampleInstrument_of_raised (h : (HasMetering.metering st).Emits place number i k)
    {f : Failure} (hrun : callbacks k Recorder.asNumber ([], st) = (.raised f, ms, st'))
    (hf : f.isOrdinary = true)
    (hreport : report (Sampling.faultRecord i.name "None" f) st' = (.returned (), st'')) :
    sampleInstrument callbacks time place st = (.returned (i.samples time ms), st'') := by
  have hbeside : report (Sampling.faultRecord i.name "None" f) (ms, st') =
      (.returned (), ms, st'') :=
    congrArg (fun o => (o.1, ms, o.2)) hreport
  refine sampleInstrument_of_ended h ?_
  rw [runInstalled_of_emits h, orElse, hrun]
  exact (if_pos hf).trans hbeside

variable (callbacks time place i) in
/-- An instrument is sampled, and whatever a collection finds at the places before and after it, the
samples stand between. -/
structure Finds (ms : List Measurement) (st st' : σ) : Prop where
  sampled : sampleInstrument callbacks time place st = (.returned (i.samples time ms), st')
  collected : ∀ st₀ st₁ before after n,
    (HasMetering.metering st₀).meter.instruments.length = place + (1 + n) →
    Act.collect (List.range place) (sampleInstrument callbacks time) st₀ =
      (.returned before, st) →
    Act.collect (List.range' (place + 1) n) (sampleInstrument callbacks time) st' =
      (.returned after, st₁) →
    collect callbacks time st₀ =
      (.returned (before.flatten ++ i.samples time ms ++ after.flatten), st₁)

theorem finds_of_sampled
    (h : sampleInstrument callbacks time place st = (.returned (i.samples time ms), st')) :
    Finds callbacks time place i ms st st' where
  sampled := h
  collected st₀ st₁ before after n hlength hbefore hafter := by
    have hplaces : places st₀ =
        (.returned (List.range place ++ ([place] ++ List.range' (place + 1) n)), st₀) := by
      have hrange : List.range (place + (1 + n)) =
          List.range place ++ ([place] ++ List.range' (place + 1) n) := by
        rw [List.range_eq_range', List.range_eq_range', ← List.range'_append_1, Nat.add_comm 1 n,
          List.range'_succ, Nat.zero_add]
        rfl
      rw [← hrange, ← hlength]
      rfl
    rw [collect, bind_of_returned hplaces, collect_append, collect_append, collect_singleton,
      bind_assoc, bind_of_returned hbefore]
    simp only [bind_assoc, pure_bind]
    rw [bind_of_returned h, bind_of_returned hafter]
    simp

end Collection

end AspectAgent
