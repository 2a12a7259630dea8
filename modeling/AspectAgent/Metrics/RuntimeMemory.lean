import AspectAgent.Metrics.Reading
import AspectAgent.Metrics.Registry

/-!
# Runtime memory

Eight instruments measure the memory of a running program: four for each memory pool, and the same
four for the heap and for the rest. The labels of a pool, its name and the type of its memory, are
made when the instruments are registered.
-/

namespace AspectAgent.RuntimeMemory

def heap : String := "heap"

def nonHeap : String := "non_heap"

def unknown : String := "unknown"

def memoryType (poolType : Value) : String :=
  if poolType.same (.text heap) then heap
  else if poolType.same (.text nonHeap) then nonHeap
  else unknown

def typeKey : String := "type"

def poolKey : String := "pool"

/-- The unit of all eight instruments: bytes. -/
def unit : String := "By"

/-- What the names of the instruments start with, unless something else is asked for. -/
def defaultStem : String := "process.runtime.memory"

/-- A field that is measured: the end of its instruments' names, and their descriptions. -/
structure Measure where
  suffix : String
  field : MemoryField
  ofPool : String
  ofAll : String
  deriving DecidableEq, Repr, Inhabited

/-- The measured fields, in the order in which their instruments are registered. -/
def measures : List Measure :=
  [⟨"usage", .used, "Measure of memory pool used", "Measure of memory used"⟩,
    ⟨"init", .init, "Measure of initial memory pool requested",
      "Measure of initial memory requested"⟩,
    ⟨"committed", .committed, "Measure of memory pool committed", "Measure of memory committed"⟩,
    ⟨"limit", .max, "Measure of max obtainable memory pool", "Measure of max obtainable memory"⟩]

def poolInstrument (stem : String) (m : Measure) : Instrument :=
  ⟨stem ++ ".pool." ++ m.suffix, unit, m.ofPool⟩

/-- The instrument that measures a field for the heap and for the rest. -/
def totalInstrument (stem : String) (m : Measure) : Instrument :=
  ⟨stem ++ "." ++ m.suffix, unit, m.ofAll⟩

/-- Registers the eight instruments with a registry, those of the pools first, and returns their
numbers. The callbacks are made from the field and the name of the instrument, each right before its
instrument is registered. -/
def registerObservers {σ K : Type} [HasMetering σ K] [HasChannel σ] (registry : Nat) (stem : String)
    (poolCallback totalCallback : MemoryField → String → Act σ K) : Act σ (List Nat) := do
  let register := fun (i : Instrument) (make : MemoryField → String → Act σ K) (m : Measure) => do
    let k ← make m.field i.name
    Metering.registering registry i (some k)
  let pools ← Act.collect measures fun m => register (poolInstrument stem m) poolCallback m
  let totals ← Act.collect measures fun m => register (totalInstrument stem m) totalCallback m
  return pools ++ totals

end AspectAgent.RuntimeMemory
