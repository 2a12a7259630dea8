import AspectAgent.AdviceCall
import AspectAgent.Diagnostics.Channel

/-!
# Guarded advice

All advice runs through a guard. While advice runs nothing else is started by any guard: the request
is skipped. What advice raises, of whatever class, is counted by the guard, reported on the
diagnostics channel if the guard reports faults, and goes no further; a failure of the report itself
goes no further either.

A run keeps a journal of what happened in it and of the advice that was started and ended, so that
one can say in which order these things took place. Nothing reads the journal.
-/

namespace AspectAgent

/-- A guard: whether it reports faults, and how many it has counted. -/
structure Guard where
  reportsFaults : Bool := true
  faults : Nat := 0
  deriving DecidableEq, Repr, Inhabited

/-- What became of a request to run advice. -/
inductive AdviceResult where
  | skipped
  | completed (v : Value)
  /-- The failure is a fault of the advice at a site. -/
  | failed (fault : Failure)
  deriving Inhabited

namespace AdviceResult

/-- What the advice returned; null if it was skipped or failed. -/
def value : AdviceResult → Value
  | .completed v => v
  | _ => .null

def fault? : AdviceResult → Option Failure
  | .failed f => some f
  | _ => none

def isSkipped : AdviceResult → Bool
  | .skipped => true
  | _ => false

/-- Is there no fault? Advice that was skipped has none. -/
def isOk (r : AdviceResult) : Bool := r.fault?.isNone

end AdviceResult

/-- What a piece of advice noted. -/
inductive Observation where
  | call (phase : Phase) (site : String) (receiver : Option Value) (arguments : Arguments)
      (result : Value) (failure : Option Failure)
  | arguments (bound : Table Value)
  | argument (index : Int) (v : Value)
  | inside (running : Bool)
  | faults (count : Nat)
  | called (v : Value)
  | invoked (r : AdviceResult)

/-- Something that happened while the host ran. -/
inductive Event where
  /-- A method body began to run; `duringAdvice` tells whether advice was running. -/
  | body (method : String) (duringAdvice : Bool)
  | advice (id : String) (o : Observation)
  | probe (label : String)
  /-- A span-naming policy was handed a context. -/
  | span (context : Value)

/-- A moment of a run. -/
inductive Moment where
  | started (guard : Nat) (subject : AdviceSubject)
  /-- The advice that a guard had started came to its end, by a fault if there is one. -/
  | ended (guard : Nat) (site : Option String) (fault : Option Failure)
  | happened (e : Event)

/-- The changing part of a run: whether advice is running, the guards, the diagnostics channel, what
has happened, and the journal. -/
structure Run where
  inside : Bool := false
  guards : List Guard := []
  channel : LogChannel := {}
  events : List Event := []
  journal : List Moment := []
  deriving Inhabited

instance : HasChannel Run where
  channel := Run.channel
  setChannel c r := { r with channel := c }

namespace Run

def note (m : Moment) (r : Run) : Run := { r with journal := r.journal ++ [m] }

def occur (e : Event) (r : Run) : Run := { r with events := r.events ++ [e] }.note (.happened e)

def emit (e : Event) : Act Run Unit := .change (occur e)

def startAdvice (g : Nat) (subject : AdviceSubject) (r : Run) : Run :=
  { r with inside := true }.note (.started g subject)

/-- Takes a verdict: its custom tests happened, and it returns or fails. -/
def consult (v : Verdict) : Act Run Bool := do
  Act.forEach v.trace fun label => emit (.probe label)
  Act.ofExcept v.outcome

def faultsOf (r : Run) (g : Nat) : Nat := ((r.guards[g]?).map Guard.faults).getD 0

def countFault (g : Nat) (r : Run) : Run :=
  { r with guards := r.guards.modify g fun x => { x with faults := x.faults + 1 } }

def reports (r : Run) (g : Nat) : Bool := ((r.guards[g]?).map Guard.reportsFaults).getD false

end Run

def faultRecord (site : Option String) (cause : Failure) : LogRecord :=
  { logger := "agentweave.core.guard"
    level := warningLevel
    message := .text "Advice raised; outcome of the host method is unchanged"
    extra := [("site", .text (site.getD "None"))]
    report := .of cause }

/-- Counts a fault and reports it. An ordinary failure of the report is dropped. -/
def recordFault (g : Nat) (site : Option String) (cause : Failure) : Act Run Unit := do
  Act.change (Run.countFault g)
  let r ← Act.read
  if r.reports g then Act.orElse (report (faultRecord site cause)) fun _ => Act.give ()

/-- Runs advice on a subject through a guard. -/
def guarded (g : Nat) (subject : AdviceSubject) (advice : AdviceSubject → Act Run Value) :
    Act Run AdviceResult := do
  let before ← Act.read
  if before.inside then return .skipped
  Act.change (Run.startAdvice g subject)
  -- the flag is put back before a fault is counted or reported
  match ← Act.ensuring (Act.attempt (advice subject)) fun r =>
      { r with inside := before.inside } with
  | .ok v =>
    Act.change (Run.note (.ended g subject.site none))
    return .completed v
  | .error cause =>
    Act.change (Run.note (.ended g subject.site (some cause)))
    recordFault g subject.site cause
    return .failed (.adviceFailed subject.site cause)

end AspectAgent
