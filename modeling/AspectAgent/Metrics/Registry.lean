import AspectAgent.Diagnostics.Channel
import AspectAgent.Metrics.Instrument

/-!
# Registries of instruments

A registry gives each name to at most one instrument at a time. Registering installs the instrument
on the meter; closing it frees its name, unless the name has gone to another instrument since.
Nothing is ever taken off the meter: a closed instrument stays there and emits nothing.
-/

namespace AspectAgent

/-- A meter, all instruments registered so far by number, and the registries that share the meter. A
registry maps the names in use to numbers. -/
structure Metering (K : Type) where
  meter : Meter K := {}
  registered : List (RegisteredInstrument K) := []
  registries : List (Table Nat) := [[]]

namespace Metering

variable {K : Type}

def names (m : Metering K) (registry : Nat) : Table Nat := m.registries.getD registry []

def addRegistry (m : Metering K) : Nat × Metering K :=
  (m.registries.length, { m with registries := m.registries ++ [[]] })

def find? (m : Metering K) (registry : Nat) (name : String) : Option Nat :=
  (m.names registry).get? name

def isActive (m : Metering K) (number : Nat) : Bool :=
  ((m.registered[number]?).map RegisteredInstrument.active).getD false

def shown (m : Metering K) (number : Nat) : String :=
  ((m.registered[number]?).map RegisteredInstrument.shown).getD ""

def nameOf (m : Metering K) (number : Nat) : String :=
  ((m.registered[number]?).map fun r => r.instrument.name).getD ""

/-- The instruments of a registry, in the order in which they got their names. -/
def instruments (m : Metering K) (registry : Nat) : List Instrument :=
  (m.names registry).filterMap fun e => (m.registered[e.2]?).map RegisteredInstrument.instrument

/-- Makes a registered instrument without any registry and without installing it. -/
def standalone (m : Metering K) (i : Instrument) (callback : K) : Nat × Metering K :=
  (m.registered.length, { m with registered := m.registered ++ [⟨i, callback, none, true⟩] })

/-- Registers an instrument under its name and returns its number. There must be a callback, the
name must be free, and the meter must not refuse the instrument. -/
def register (m : Metering K) (registry : Nat) (i : Instrument) (callback : Option K) :
    Except Failure (Nat × Metering K) :=
  match callback with
  | none => .error .callbackNotCallable
  | some k =>
    if (m.find? registry i.name).isSome then .error (.duplicateInstrument i.name)
    else do
      let number := m.registered.length
      let (_, meter) ← m.meter.create i [.registered number]
      return (number,
        { meter := meter
          registered := m.registered ++ [⟨i, k, some registry, true⟩]
          registries := m.registries.modify registry fun t => t.put i.name number })

/-- Frees the name of an instrument if the name is still its own. -/
def forget (m : Metering K) (registry number : Nat) (name : String) : Metering K :=
  if m.find? registry name = some number then
    { m with registries := m.registries.modify registry fun t => t.remove name }
  else m

def close (m : Metering K) (number : Nat) : Metering K :=
  match m.registered[number]? with
  | none => m
  | some r =>
    let closed := { m with
      registered := m.registered.modify number fun r => { r with active := false } }
    match r.registry with
    | none => closed
    | some registry => closed.forget registry number r.instrument.name

/-- Closes the instrument that has a name, and tells whether there was one. -/
def deregister (m : Metering K) (registry : Nat) (name : String) : Bool × Metering K :=
  match m.find? registry name with
  | none => (false, m)
  | some number => (true, m.close number)

end Metering

/-- A state that holds a meter and registries. -/
class HasMetering (σ : Type) (K : outParam Type) where
  metering : σ → Metering K
  setMetering : Metering K → σ → σ

namespace Metering

variable {σ K : Type} [HasMetering σ K] [HasChannel σ]

def registeredRecord (name : String) : LogRecord :=
  { logger := "agentweave.core.observables"
    level := debugLevel
    message := .text "Registered instrument %s"
    arguments := [.text name]
    extra := [("instrument", .text name)] }

/-- Registers an instrument, reports it, and returns its number. -/
def registering (registry : Nat) (i : Instrument) (callback : Option K) : Act σ Nat := do
  let s ← Act.read
  let (number, m) ← Act.ofExcept ((HasMetering.metering s).register registry i callback)
  Act.change (HasMetering.setMetering m)
  report (registeredRecord i.name)
  return number

end Metering

end AspectAgent
