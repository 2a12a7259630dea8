import AspectAgent.Metrics.Collection
import AspectAgent.Metrics.RuntimeMemory

/-!
# Data sources and their callbacks

A source is something that can be monitored: a value, an entity, a memory pool, or a memory
subsystem with its heap and the rest. What a source answers when it is read is given by its reading,
which may fail, and which may first run commands of the program around it; `C` is the type of these
commands, and `R` that of their results. A bench holds sources, the callbacks made over them, and
everything that the callbacks report to.
-/

namespace AspectAgent

/-- What a source answers when it is read. -/
inductive Reading (C : Type) where
  | value (v : Value)
  | failing (f : Failure)
  /-- Runs commands and then answers. -/
  | after (commands : List C) (next : Reading C)
  /-- What is asked for an answer is a thing of a type that cannot be asked. -/
  | unreadable (typeName : String)

instance {C : Type} : Inhabited (Reading C) := ⟨.value (.usageOf [])⟩

namespace Reading

def shown {C : Type} : Reading C → String
  | .value v => v.shown
  | .failing _ | .unreadable _ => "<failing>"
  | .after _ next => next.shown

def typeName {C : Type} : Reading C → String
  | .value v => v.typeName
  | .failing _ | .unreadable _ => "Reading"
  | .after _ next => next.typeName

end Reading

/-- What kind of thing a source is. -/
inductive SourceKind where
  | constant (v : Value)
  | entity
  | pool
  | subsystem
  deriving Inhabited

/-- Something that can be monitored: its kind, and what its fields hold. -/
structure Source (C : Type) where
  kind : SourceKind
  fields : Table (Reading C) := []

instance {C : Type} : Inhabited (Source C) := ⟨⟨.constant .null, []⟩⟩

/-- The part of a source that is read. -/
inductive Part where
  | whole
  | usage
  | heap
  | nonHeap
  deriving DecidableEq, Repr, Inhabited

namespace Part

def member : Part → String
  | .whole => ""
  | .usage => "usage"
  | .heap => "heap_usage"
  | .nonHeap => "non_heap_usage"

end Part

namespace Source

variable {C : Type}

def constant (v : Value) : Source C := ⟨.constant v, []⟩

def entity (name type : Value) (reading : Reading C) : Source C :=
  ⟨.entity, [("name", .value name), ("type", .value type), ("reading", reading)]⟩

def pool (name type : Value) (reading : Reading C) : Source C :=
  ⟨.pool, [("name", .value name), ("type", .value type), ("reading", reading)]⟩

def subsystem (heap nonHeap : Reading C) : Source C :=
  ⟨.subsystem, [("heap", heap), ("non_heap", nonHeap)]⟩

def typeName (s : Source C) : String :=
  match s.kind with
  | .constant v => v.typeName
  | .entity => "Entity"
  | .pool => "StaticMemoryPool"
  | .subsystem => "StaticMemorySubsystem"

def field (s : Source C) (name : String) : Reading C := (s.fields.get? name).getD (.value .null)

def value? (s : Source C) (name : String) : Option Value :=
  match s.fields.get? name with
  | some (.value v) => some v
  | _ => none

/-- The printed form: an entity by its name, and others by the fields that each of their type has.
-/
def shown (s : Source C) : String :=
  let listed := fun names : List String =>
    ", ".intercalate (names.map fun n => n ++ "=" ++ (s.field n).shown)
  match s.kind with
  | .constant v => v.shown
  | .entity => "entity(" ++ (s.field "name").shown ++ ")"
  | .pool => s.typeName ++ "(" ++ listed ["name", "type", "reading"] ++ ")"
  | .subsystem => s.typeName ++ "(" ++ listed ["heap", "non_heap"] ++ ")"

def plain (s : Source C) : String :=
  match s.kind with
  | .constant v => v.plain
  | _ => s.shown

def value (s : Source C) : Value :=
  match s.kind with
  | .constant v => v
  | _ => .object s.typeName

/-- The source with a field replaced or added. A value has no fields of its own, unless nothing is
known of it but its type. -/
def set (name : String) (r : Reading C) (s : Source C) : Except Failure (Source C) :=
  match s.kind with
  | .constant (.usage ..) => .error (.frozen name)
  | .constant (.object _) => .ok s
  | .constant v => .error (.outside (.noMember v name))
  | _ => .ok { s with fields := s.fields.put name r }

def fieldOf? (s : Source C) (p : Part) : Option String :=
  match s.kind, p with
  | .entity, .usage | .pool, .usage => some "reading"
  | .subsystem, .heap => some "heap"
  | .subsystem, .nonHeap => some "non_heap"
  | _, _ => none

/-- The reading of a part. A field of the name of the member that reads a part hides that member,
but cannot read. -/
def part (s : Source C) (p : Part) : Except Failure (Reading C) :=
  if p = .whole then .ok (.value s.value)
  else
    match s.fields.get? p.member, s.fieldOf? p with
    | some r, _ => .ok (.unreadable r.typeName)
    | none, some f => .ok (s.field f)
    | none, none => .error (.noMember s.value p.member)

end Source

/-- The number in a reading. -/
inductive Extractor where
  | whole
  | field (f : MemoryField)
  | failing (f : Failure)
  deriving Inhabited

namespace Extractor

def extract : Extractor → Value → Except Failure Value
  | .whole, v => .ok v
  | .field f, v => f.of v
  | .failing f, _ => .error f

end Extractor

/-- Where the value of a label comes from. -/
inductive LabelSource where
  | name
  | type
  | whole
  | constant (v : Value)
  | failing (f : Failure)
  deriving Inhabited

namespace LabelSource

def label {C : Type} (s : Source C) : LabelSource → Except Failure Value
  | .name => Failure.ifNone (.outside (.noMember s.value "name")) (s.value? "name")
  | .type => Failure.ifNone (.outside (.noMember s.value "type")) (s.value? "type")
  | .whole => .ok (.text s.plain)
  | .constant v => .ok v
  | .failing f => .error f

end LabelSource

/-- One thing that a scripted callback does. -/
inductive ScriptItem (C : Type) where
  | record (v : Value) (labels : Table Value)
  | fail (f : Failure)
  | perform (c : C)

/-- A callback over sources, which are known by their numbers. -/
inductive Callback (C : Type) where
  | listed (cache : AttributeCache Nat) (part : Part) (extractor : Extractor) (instrument : String)
  | dual (readers : Table (Nat × Part)) (extractor : Extractor) (labelKey instrument : String)
  | script (items : List (ScriptItem C))

/-- Something that happened on a bench. -/
inductive BenchEvent (R : Type) where
  /-- A source was labelled; its printed form. -/
  | labelled (source : String)
  /-- A command was run by a reading or a script; its result. -/
  | did (result : R)

/-- Sources, callbacks, instruments and archives, each under the name by which it is known, and the
state of the meter and of diagnostics. A name can pass on to another archive while something still
writes to the one that had it. -/
structure Bench (C R : Type) where
  sources : List (Source C) := []
  sourceNumbers : Table Nat := []
  callbacks : Table (Callback C) := []
  instruments : Table Nat := []
  archives : List (Archive MetricSample) := []
  archiveNumbers : Table Nat := []
  metering : Metering (Callback C) := {}
  channel : LogChannel := {}
  events : List (BenchEvent R) := []

namespace Bench

variable {C R : Type}

instance : HasChannel (Bench C R) where
  channel := Bench.channel
  setChannel c b := { b with channel := c }

instance : HasMetering (Bench C R) (Callback C) where
  metering := Bench.metering
  setMetering m b := { b with metering := m }

def source (b : Bench C R) (n : Nat) : Source C := b.sources.getD n default

def addSource (name : String) (s : Source C) (b : Bench C R) : Bench C R :=
  { b with
    sources := b.sources ++ [s]
    sourceNumbers := b.sourceNumbers.put name b.sources.length }

def sourceNumber (b : Bench C R) (name : String) : Except Failure Nat :=
  Failure.ifNone (.unknownName name) (b.sourceNumbers.get? name)

def setSource (name field : String) (r : Reading C) : Act (Bench C R) Unit := do
  let b ← Act.read
  let n ← Act.ofExcept (b.sourceNumber name)
  let s ← Act.ofExcept ((b.source n).set field r)
  Act.change fun b => { b with sources := b.sources.set n s }

def emit (e : BenchEvent R) : Act (Bench C R) Unit :=
  .change fun b => { b with events := b.events ++ [e] }

variable (run : C → Act (Bench C R) R)

def perform (c : C) : Act (Bench C R) Unit := do
  let r ← run c
  emit (.did r)

def answer : Reading C → Act (Bench C R) Value
  | .value v => .give v
  | .failing f => .raise f
  | .unreadable typeName => .raise (.notCallable typeName)
  | .after commands next => do
    Act.forEach commands (perform run)
    answer next

def readPart (part : Part) (n : Nat) : Act (Bench C R) Value := do
  let b ← Act.read
  let r ← Act.ofExcept ((b.source n).part part)
  answer run r

def runScript (sink : Sink (Recorder (Bench C R))) :
    List (ScriptItem C) → Act (Recorder (Bench C R)) Unit
  | [] => .give ()
  | item :: rest => do
    match item with
    | .record v labels => sink v (← Act.ofExcept (AttributeSet.of? labels)).entries
    | .fail f => Act.raise f
    | .perform c => Recorder.beside (perform run c)
    runScript sink rest

def interpret : Interpretation (Callback C) (Bench C R) := fun k sink =>
  match k with
  | .listed cache part extractor instrument =>
    Sampling.sampleEntities
      { instrument := instrument
        shown := fun n => do return (Bench.source (← Act.read).2 n).shown
        read := fun n => Recorder.beside (readPart run part n)
        extract := extractor.extract } sink cache.pairs
  | .dual readers extractor labelKey instrument => do
    let readers := readers.map fun e => (e.1, Recorder.beside (readPart run e.2.2 e.2.1))
    let sampler ← Act.ofExcept (Sampling.dual? labelKey instrument readers extractor.extract)
    sampler.sample sink
  | .script items => runScript run sink items

/-- A callback that samples a list of sources. They are labelled now; each labelling is noted if it
is scripted. -/
def listed (sources : List Nat) (labels : Nat → Act (Bench C R) (Table Value)) (part : Part)
    (extractor : Extractor) (instrument : String) : Act (Bench C R) (Callback C) := do
  let cache ← AttributeCache.build labels sources
  return .listed cache part extractor instrument

def scriptedLabels (labels : List (String × LabelSource)) (n : Nat) :
    Act (Bench C R) (Table Value) := do
  let s := (← Act.read).source n
  emit (.labelled s.shown)
  let found ← Act.collect labels fun l => do return (l.1, ← Act.ofExcept (l.2.label s))
  return Table.ofPairs found

def poolLabels (n : Nat) : Act (Bench C R) (Table Value) := do
  let s := (← Act.read).source n
  let name ← Act.ofExcept (Failure.ifNone (.noMember s.value "name") (s.value? "name"))
  let type ← Act.ofExcept (Failure.ifNone (.noMember s.value "type") (s.value? "type"))
  return [(RuntimeMemory.poolKey, name),
    (RuntimeMemory.typeKey, .text (RuntimeMemory.memoryType type))]

/-- A callback that samples the heap and the rest of a memory subsystem, both of which the source
must have. -/
def memoryCallback (memory : Nat) (extractor : Extractor) (instrument : String) :
    Act (Bench C R) (Callback C) := do
  let s := (← Act.read).source memory
  let _ ← Act.ofExcept (s.part .heap)
  let _ ← Act.ofExcept (s.part .nonHeap)
  return .dual [(RuntimeMemory.heap, (memory, .heap)), (RuntimeMemory.nonHeap, (memory, .nonHeap))]
    extractor RuntimeMemory.typeKey instrument

/-- A callback that samples the usage of sources by category. Every source must be known and have
one, and there must be two categories; a category that is named again takes the later source. -/
def dual (sources : List (String × String)) (extractor : Extractor) (labelKey instrument : String) :
    Act (Bench C R) (Callback C) := do
  let b ← Act.read
  let readers ← Act.collect sources fun e => do
    let n ← Act.ofExcept (b.sourceNumber e.2)
    match (b.source n).part .usage with
    | .ok _ => return (e.1, (n, Part.usage))
    | .error f => Act.raise (.outside f)
  let readers := Table.ofPairs readers
  if readers.length = 2 then return .dual readers extractor labelKey instrument
  else Act.raise (.categoryCount readers.length)

/-- Knows a registered instrument by a handle. -/
def remember (handle : String) (number : Nat) (b : Bench C R) : Bench C R :=
  { b with instruments := b.instruments.put handle number }

def handlesOf (b : Bench C R) (number : Nat) : List String :=
  Table.keys (b.instruments.filter fun e => e.2 == number)

def addCallback (name : String) (k : Callback C) (b : Bench C R) : Bench C R :=
  { b with callbacks := b.callbacks.put name k }

def register (handle : String) (registry : Nat) (i : Instrument) (callback : Option (Callback C)) :
    Act (Bench C R) Nat := do
  let number ← Metering.registering registry i callback
  Act.change (remember handle number)
  return number

/-- Makes an instrument outside of all registries and knows it by a handle. -/
def standalone (handle : String) (i : Instrument) (callback : Callback C) :
    Act (Bench C R) Nat := do
  let (number, m) := (← Act.read).metering.standalone i callback
  Act.change fun b => { b with metering := m }.remember handle number
  return number

/-- Registers the eight instruments of runtime memory, with a registry of their own unless one is
given, and knows each by a handle and its name. -/
def registerObservers (handle : String) (registry : Option Nat) (stem : String) (pools : List Nat)
    (memory : Nat) : Act (Bench C R) (List Nat) := do
  let registry ← match registry with
    | some registry => pure registry
    | none =>
      let (registry, m) := (← Act.read).metering.addRegistry
      Act.change fun b => { b with metering := m }
      pure registry
  let made ← RuntimeMemory.registerObservers registry stem
    (fun f name => listed pools poolLabels .usage (.field f) name)
    (fun f name => memoryCallback memory (.field f) name)
  Act.forEach made fun number =>
    Act.change fun b => b.remember (handle ++ b.metering.nameOf number) number
  return made

def archive (b : Bench C R) (n : Nat) : Archive MetricSample := b.archives.getD n .unbounded

def addArchive (name : String) (a : Archive MetricSample) (b : Bench C R) : Bench C R :=
  { b with
    archives := b.archives ++ [a]
    archiveNumbers := b.archiveNumbers.put name b.archives.length }

def store (n : Nat) (samples : List MetricSample) (b : Bench C R) : Bench C R :=
  { b with archives := b.archives.modify n (·.writeAll samples) }

def collectInto (n : Nat) (time : Value) : Act (Bench C R) Nat := do
  Act.ofExcept (← Act.read).metering.meter.checkOnDemand
  Collection.collectInto (interpret run) (store n) time

/-- A bench of one meter and two registries, its diagnostics captured from a level on in an
unbounded archive, with a further handler that fails on every record if one is given. -/
def initial (meter : Meter (Callback C)) (level : Int) (faultyHandler : Option Failure) :
    Bench C R :=
  { metering := { meter := meter, registries := [[], []] }
    channel := LogChannel.captured level faultyHandler }

end Bench

end AspectAgent
