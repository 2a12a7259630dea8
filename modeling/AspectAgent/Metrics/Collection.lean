import AspectAgent.Metrics.Registry
import AspectAgent.Metrics.Sample
import AspectAgent.Metrics.Sampling

/-!
# Collecting measurements

A recorder stands beside the state and keeps what callbacks hand to it; what it keeps stays when the
callback fails. A registered instrument that is closed runs nothing; an active one runs its callback
and reports an ordinary failure. On-demand collection runs every callback of every instrument with a
recorder of its own that turns each value into a floating-point number; an ordinary failure is
reported and ends that one callback. A slotted meter is asked for one instrument at a time and
records values as they are; an ordinary failure then is the answer.
-/

namespace AspectAgent

/-- A recorded value with its labels. -/
structure Measurement where
  value : Value
  labels : Table Value
  deriving Inhabited

/-- What has been recorded, beside a state. -/
abbrev Recorder (σ : Type) := List Measurement × σ

instance {σ : Type} [HasChannel σ] : HasChannel (Recorder σ) where
  channel s := HasChannel.channel s.2
  setChannel c s := (s.1, HasChannel.setChannel c s.2)

instance {σ K : Type} [HasMetering σ K] : HasMetering (Recorder σ) K where
  metering s := HasMetering.metering s.2
  setMetering m s := (s.1, HasMetering.setMetering m s.2)

namespace Recorder

variable {σ α : Type}

/-- An action on the state, beside which nothing is recorded. -/
def beside (x : Act σ α) : Act (Recorder σ) α := Act.within Prod.snd (fun s r => (r.1, s)) x

def asIs : Sink (Recorder σ) := fun v labels =>
  .change fun r => (r.1 ++ [⟨v, labels⟩], r.2)

def asNumber : Sink (Recorder σ) := fun v labels => do
  let x ← Act.ofExcept v.toBinary64
  asIs (.float x) labels

/-- Runs an action with an empty recorder. The result is the failure that ended it, if any, and what
was recorded. -/
def run (x : Act (Recorder σ) Unit) : Act σ (Option Failure × List Measurement) := fun s =>
  match x ([], s) with
  | (.returned (), ms, s') => (.returned (none, ms), s')
  | (.raised f, ms, s') => (.returned (some f, ms), s')
  | (.unfinished, _, s') => (.unfinished, s')

/-- Runs an action with an empty recorder, and raises what is no ordinary failure. -/
def runOrdinary (x : Act (Recorder σ) Unit) : Act σ (Option Failure × List Measurement) := do
  let (ended, ms) ← run x
  match ended with
  | none => return (none, ms)
  | some f => if f.isOrdinary then return (some f, ms) else Act.raise f

end Recorder

/-- What callbacks do when they are handed a sink. -/
abbrev Interpretation (K σ : Type) := K → Sink (Recorder σ) → Act (Recorder σ) Unit

namespace Collection

variable {K σ : Type} [HasMetering σ K] [HasChannel σ]

def runInstalled (callbacks : Interpretation K σ) (sink : Sink (Recorder σ)) :
    Installed K → Act (Recorder σ) Unit
  | .direct k => callbacks k sink
  | .registered number => do
    let s ← Act.read
    match (HasMetering.metering s).registered[number]? with
    | none => return ()
    | some r =>
      if !r.active then return ()
      Act.orElse (callbacks r.callback sink) fun f =>
        report (Sampling.faultRecord r.instrument.name "None" f)

def failedRecord (instrument : String) (f : Failure) : LogRecord :=
  { logger := "agentweave.adapters.meters.in_memory"
    level := warningLevel
    message := .text "Collection callback raised"
    extra := [("instrument", .text instrument)]
    report := .of f }

def sampleInstalled (callbacks : Interpretation K σ) (time : Value) (instrument : String)
    (x : Installed K) : Act σ (List MetricSample) := do
  let (ended, ms) ← Recorder.runOrdinary (runInstalled callbacks Recorder.asNumber x)
  if let some f := ended then report (failedRecord instrument f)
  return ms.map fun m => ⟨instrument, time, m.value, m.labels⟩

def sampleInstrument (callbacks : Interpretation K σ) (time : Value) (place : Nat) :
    Act σ (List MetricSample) := do
  let s ← Act.read
  match (HasMetering.metering s).meter.instruments[place]? with
  | none => return []
  | some i =>
    let samples ← Act.collect i.installed (sampleInstalled callbacks time i.instrument.name)
    return samples.flatten

def places : Act σ (List Nat) := do
  let s ← Act.read
  return List.range (HasMetering.metering s).meter.instruments.length

/-- One cycle of on-demand collection: the samples of all instruments there are at its start. -/
def collect (callbacks : Interpretation K σ) (time : Value) : Act σ (List MetricSample) := do
  let samples ← Act.collect (← places) (sampleInstrument callbacks time)
  return samples.flatten

/-- One cycle of on-demand collection whose samples are then stored in the state. The result is
their number. -/
def collectInto (callbacks : Interpretation K σ) (store : List MetricSample → σ → σ)
    (time : Value) :
    Act σ Nat := do
  let samples ← collect callbacks time
  Act.change (store samples)
  return samples.length

/-- What an instrument of a slotted meter was found to measure, or the failure that came of it. -/
structure Observed where
  instrument : Instrument
  answer : Except Failure (List Measurement)

def observe (callbacks : Interpretation K σ) (place : Nat) : Act σ (List Observed) := do
  let s ← Act.read
  match (HasMetering.metering s).meter.instruments[place]? with
  | none => return []
  | some i =>
    let answer ← Act.collect i.installed fun x =>
      Recorder.runOrdinary (runInstalled callbacks Recorder.asIs x)
    match answer with
    | (some f, _) :: _ => return [⟨i.instrument, .error f⟩]
    | (none, ms) :: _ => return [⟨i.instrument, .ok ms⟩]
    | [] => return [⟨i.instrument, .ok []⟩]

/-- Observes every instrument that a slotted meter has at the start. -/
def observeAll (callbacks : Interpretation K σ) : Act σ (List Observed) := do
  let found ← Act.collect (← places) (observe callbacks)
  return found.flatten

end Collection

end AspectAgent
