import AspectAgent.Diagnostics.Channel
import AspectAgent.Metrics.AttributeSet
import AspectAgent.Metrics.Reading

/-!
# Sampling

A sampling callback reads its sources and hands each usable number that is not the mark of a missing
value to a sink, with the labels that go with the source. There are two of them: one goes through a
list of entities whose labels were made once, the other through exactly two named categories. A
source whose reading fails in an ordinary way, or is no usable number, is reported and skipped; a
failure of the sink, or of the report, ends the callback.
-/

namespace AspectAgent

/-- What a callback hands its measurements to: a number and its labels. -/
abbrev Sink (σ : Type) := Value → Table Value → Act σ Unit

namespace Sampling

variable {σ E : Type} [HasChannel σ]

def faultRecord (instrument entity : String) (f : Failure) : LogRecord :=
  { logger := "agentweave.core.observables"
    level := warningLevel
    message := .text "Sampling failed; entity skipped for this cycle"
    extra := [("instrument", .text instrument), ("entity", .text entity)]
    report := .of f }

/-- How a list of entities is sampled: the instrument's name, the printed form of an entity, its
reading, and the number in a reading. -/
structure EntitySampler (σ E : Type) where
  instrument : String
  shown : E → Act σ String
  read : E → Act σ Value
  extract : Value → Except Failure Value

def EntitySampler.number (s : EntitySampler σ E) (e : E) : Act σ Value := do
  let reading ← s.read e
  Act.ofExcept (s.extract reading >>= Value.usable)

def sampleEntities (s : EntitySampler σ E) (sink : Sink σ) :
    List (E × AttributeSet) → Act σ Unit
  | [] => .give ()
  | (e, attributes) :: rest => do
    match ← Act.caught (s.number e) with
    | .ok v => if !v.isUnavailable then sink v attributes.entries
    | .error f => report (faultRecord s.instrument (← s.shown e) f)
    sampleEntities s sink rest

/-- How two categories are sampled: the key of the label that tells the category, the instrument's
name, the two categories with their readings, and the number in a reading. -/
structure DualSampler (σ : Type) where
  labelKey : String
  instrument : String
  first : String × Act σ Value
  second : String × Act σ Value
  extract : Value → Except Failure Value

/-- A sampler of categories, of which there must be two. -/
def dual? (labelKey instrument : String) (readers : Table (Act σ Value))
    (extract : Value → Except Failure Value) : Except Failure (DualSampler σ) :=
  match readers with
  | [first, second] => .ok ⟨labelKey, instrument, first, second, extract⟩
  | _ => .error (.categoryCount readers.length)

def DualSampler.sampleCategory (s : DualSampler σ) (sink : Sink σ) (category : String)
    (read : Act σ Value) : Act σ Unit := do
  let number : Act σ Value := read >>= fun v => Act.ofExcept (s.extract v >>= Value.usable)
  match ← Act.caught number with
  | .error f => report (faultRecord s.instrument (Text.quoted category) f)
  | .ok v =>
    if v.isUnavailable then return ()
    sink v [(s.labelKey, .text category)]

/-- Samples both categories, independently of each other. -/
def DualSampler.sample (s : DualSampler σ) (sink : Sink σ) : Act σ Unit := do
  s.sampleCategory sink s.first.1 s.first.2
  s.sampleCategory sink s.second.1 s.second.2

end Sampling

end AspectAgent
