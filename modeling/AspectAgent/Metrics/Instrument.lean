import AspectAgent.Failure

/-!
# Instruments and meters

A meter holds instruments and the callbacks installed on each. An on-demand meter makes a new
instrument at every request and keeps all callbacks in the order of installation. A slotted meter
has one instrument for each name, with the unit and the description of the first request, and a slot
for one callback, which an installation replaces.

`K` is the type of callbacks. What is installed is either a callback as it is or a registered
instrument, which is known by its number and guards a callback.
-/

namespace AspectAgent

/-- A named, periodically sampled source of measurements. -/
structure Instrument where
  name : String
  unit : String
  description : String
  deriving DecidableEq, Repr, Inhabited

namespace Instrument

/-- The kind of every instrument: its measurements can go up and down. -/
def kind : String := "up_down_counter"

end Instrument

/-- An instrument whose callback has been installed on a meter: the registry that made it, if any,
and whether it still emits. -/
structure RegisteredInstrument (K : Type) where
  instrument : Instrument
  callback : K
  registry : Option Nat
  active : Bool := true

namespace RegisteredInstrument

def shown {K : Type} (r : RegisteredInstrument K) : String :=
  "RegisteredInstrument(" ++ Text.quoted r.instrument.name ++ ", " ++
    (if r.active then "active" else "closed") ++ ")"

end RegisteredInstrument

/-- What is installed on a meter. -/
inductive Installed (K : Type) where
  | direct (callback : K)
  | registered (number : Nat)

/-- An instrument of a meter, and what is installed on it. -/
structure MeterInstrument (K : Type) where
  instrument : Instrument
  installed : List (Installed K) := []

/-- How a meter treats a name that it has seen before. -/
inductive MeterStyle where
  | onDemand
  | slotted
  deriving DecidableEq, Repr, Inhabited

/-- A meter with its instruments in the order of creation, which may be out of sight: they are then
not shown, nor can they be collected from. What stands behind a slotted meter may refuse an
instrument. -/
structure Meter (K : Type) where
  style : MeterStyle := .onDemand
  name : String := "agentweave.runtime-metrics"
  instruments : List (MeterInstrument K) := []
  isHidden : Bool := false
  refuses : Instrument → Option Failure := fun _ => none

namespace Meter

variable {K : Type}

/-- What a slotted meter is, as a failure names it. -/
def slottedMeter : Value := .object "OpenTelemetryMeter"

/-- Refuses what a meter whose instruments are out of sight does not have. -/
def checkSight (m : Meter K) (member : String) : Except Failure Unit :=
  if m.isHidden then .error (.outside (.noMember slottedMeter member)) else .ok ()

/-- Refuses to collect into an archive what is not collected on demand. -/
def checkOnDemand (m : Meter K) : Except Failure Unit :=
  match m.style with
  | .onDemand => .ok ()
  | .slotted => .error (.outside (.noMember slottedMeter "collect_into"))

/-- The place of the instrument that a request for a name gets, if there is one already. -/
def place? (m : Meter K) (name : String) : Option Nat :=
  match m.style with
  | .onDemand => none
  | .slotted => m.instruments.findIdx? fun x => x.instrument.name == name

/-- The failure with which an instrument is refused. Only a name that a slotted meter has not seen
before is passed on to what stands behind the meter. -/
def refusal? (m : Meter K) (i : Instrument) : Option Failure :=
  match m.style, m.place? i.name with
  | .slotted, none => m.refuses i
  | _, _ => none

/-- Makes room for an instrument that is not refused. The result is its place. -/
def provide (m : Meter K) (i : Instrument) : Nat × Meter K :=
  match m.place? i.name with
  | some place => (place, m)
  | none => (m.instruments.length, { m with instruments := m.instruments ++ [{ instrument := i }] })

def install (m : Meter K) (place : Nat) (x : Installed K) : Meter K :=
  { m with
    instruments := m.instruments.modify place fun i =>
      match m.style with
      | .onDemand => { i with installed := i.installed ++ [x] }
      | .slotted => { i with installed := [x] } }

def provideWith (m : Meter K) (i : Instrument) (xs : List (Installed K)) : Nat × Meter K :=
  let (place, m) := m.provide i
  (place, xs.foldl (fun m x => m.install place x) m)

/-- Requests an instrument and installs callbacks on it, in order. The result is its place. -/
def create (m : Meter K) (i : Instrument) (xs : List (Installed K)) :
    Except Failure (Nat × Meter K) :=
  match m.refusal? i with
  | some f => .error f
  | none => .ok (m.provideWith i xs)

end Meter

end AspectAgent
