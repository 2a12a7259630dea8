import AspectAgent.Diagnostics.Handler

/-!
# The diagnostics channel

The agent reports on one logger. Handlers attached to it receive a record in the order in which they
were attached, each if the record reaches its own level; then the record passes on to the root
logger unless propagation is off. A capture attaches a handler, lowers the logger's level where that
is needed and turns propagation off; a release detaches it and gives the logger back the level it
had before that capture.
-/

namespace AspectAgent

def agentLogger : String := "agentweave"

/-- The name of the agent's logger or of a child of it. -/
def loggerName : Option String → String
  | none => agentLogger
  | some name =>
    if name = agentLogger then agentLogger
    else if (agentLogger ++ ".").isPrefixOf name then name
    else agentLogger ++ "." ++ name

/-- Where a handler puts its records. -/
inductive LogSink where
  | archive (index : Nat)
  /-- A store that fails; the handler keeps that to itself. -/
  | broken
  /-- A handler that raises on some records and drops the others. -/
  | raising (fails : LogRecord → Option Failure)
  deriving Inhabited

/-- A handler: its identity, its level and its sink. -/
structure LogHandler where
  id : Nat
  level : Int
  sink : LogSink
  deriving Inhabited

/-- The state of the agent's logger. Level zero is no level of its own. -/
structure LogChannel where
  level : Int := 0
  propagates : Bool := true
  handlers : List LogHandler := []
  /-- The logger's level before each capture that has not been released. -/
  levelBefore : List (Nat × Int) := []
  archives : List (Archive LogEntry) := []
  made : Nat := 0
  /-- The records that went on to the root logger. -/
  passedOn : List LogRecord := []
  deriving Inhabited

namespace LogChannel

/-- The level of the root logger, which counts where the agent's logger has none. -/
def rootLevel : Int := 30

/-- The least level of a record that is handled at all. -/
def threshold (c : LogChannel) : Int := if c.level = 0 then rootLevel else c.level

def addArchive (c : LogChannel) (a : Archive LogEntry) : LogChannel :=
  { c with archives := c.archives ++ [a] }

def archive (c : LogChannel) (i : Nat) : Archive LogEntry := c.archives.getD i .unbounded

def store (i : Nat) (e : LogEntry) (c : LogChannel) : LogChannel :=
  { c with archives := c.archives.modify i (·.write e) }

def isAttached (c : LogChannel) (id : Nat) : Bool := c.handlers.any (·.id == id)

/-- Attaches a handler at the end, at most once. -/
def attach (h : LogHandler) (c : LogChannel) : LogChannel :=
  if c.isAttached h.id then c else { c with handlers := c.handlers ++ [h] }

def makeHandler (c : LogChannel) (level : Int) (sink : LogSink) : LogHandler :=
  ⟨c.made, level, sink⟩

/-- Captures records into a sink from a level on: attaches a new handler, lowers the logger's level
if it is unset or higher, and turns propagation off. -/
def capture (level : Int) (sink : LogSink) (c : LogChannel) : LogChannel :=
  let attached := { c with levelBefore := c.levelBefore ++ [(c.made, c.level)], made := c.made + 1 }
    |>.attach (c.makeHandler level sink)
  { attached with
    level := if c.level = 0 || level < c.level then level else c.level
    propagates := false }

/-- Releases a handler: detaches it and, if its capture has not been released before, gives the
logger the level it had before that capture. Without handlers records propagate again. -/
def release (id : Nat) (c : LogChannel) : LogChannel :=
  let handlers := c.handlers.filter (·.id != id)
  { c with
    handlers := handlers
    level := (c.levelBefore.lookup id).getD c.level
    levelBefore := c.levelBefore.filter (·.1 != id)
    propagates := if handlers.isEmpty then true else c.propagates }

/-- Hands a record to one handler, if the record reaches its level. A failure to store stays inside
the handler. -/
def deliver (r : LogRecord) (h : LogHandler) : Act LogChannel Unit :=
  if r.level < h.level then .give ()
  else
    match h.sink with
    | .archive i => ({} : EntryFormat).deliver (fun e => .change (store i e)) (fun _ => .give ()) r
    | .broken => .give ()
    | .raising fails =>
      match fails r with
      | some f => .raise f
      | none => .give ()

def reservedExtra (r : LogRecord) : Option String :=
  r.extra.keys.find? fun k => k != "taskName" && LogRecord.standardFields.contains k

/-- Passes a record on to the root logger if the channel propagates. The root logger makes the
message of the record. -/
def passOn (r : LogRecord) : Act LogChannel Unit := do
  let c ← Act.read
  if !c.propagates then return ()
  let _ ← Act.ofExcept r.text
  Act.change fun c => { c with passedOn := c.passedOn ++ [r] }

/-- A logging call. A record below the threshold is dropped, and so is one of level zero or less,
however low the threshold. -/
def log (r : LogRecord) : Act LogChannel Unit := do
  let c ← Act.read
  if r.level ≤ 0 || r.level < c.threshold then return ()
  if let some name := reservedExtra r then Act.raise (.reservedField name)
  Act.forEach c.handlers (deliver r)
  passOn r

/-- A channel whose records are captured from a level on in an unbounded archive, with a further
handler that fails on every record if one is given. -/
def captured (level : Int) (faultyHandler : Option Failure) : LogChannel :=
  let c := (addArchive {} .unbounded).capture level (.archive 0)
  match faultyHandler with
  | none => c
  | some f => { c with made := c.made + 1 }.attach (c.makeHandler 0 (.raising fun _ => some f))

end LogChannel

/-- A state that holds a diagnostics channel. -/
class HasChannel (σ : Type) where
  channel : σ → LogChannel
  setChannel : LogChannel → σ → σ

/-- A logging call in a state that holds a channel. -/
def report {σ : Type} [HasChannel σ] (r : LogRecord) : Act σ Unit :=
  Act.within HasChannel.channel HasChannel.setChannel (LogChannel.log r)

def debugLevel : Int := 10

def infoLevel : Int := 20

def warningLevel : Int := 30

end AspectAgent
