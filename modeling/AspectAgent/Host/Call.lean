import AspectAgent.Guard
import AspectAgent.Host.Lookup

/-!
# Calls of the host

A call looks up the member, finds its receiver and runs the layers of advice around it, the
outermost first. A layer runs its advice before or after the rest of the call, depending on its
phase, and hands on what the rest returned or raised. Innermost is the method itself: its arguments
are bound and its body runs.

Whatever else is found is read and then called: a class makes an instance of itself, and an instance
runs the special member for calls. The special members that prepare an instance or stand in for
members that are missing run in the same way, so that advice woven into them fires.

Bodies and advice can call methods in turn, and advice can ask a guard for other advice. With
`Stage.perform n` at most `n` of these can be open at a time, and a run that needs more does not
finish. Everything at one level is structural; the levels below are reached through `nested`.
-/

namespace AspectAgent

/-- What bodies and advice can start: a call of a method, or other advice. -/
structure Nested where
  call : Request → Act Run Value
  advise : Advice → AdviceSubject → Act Run Value

namespace Nested

def exhausted : Nested := ⟨fun _ => Act.unfinished, fun _ _ => Act.unfinished⟩

end Nested

/-- What stays fixed during a call: the host, the advice that can be asked for by name, and the
guard that is asked and whose faults advice can ask for. -/
structure Stage where
  host : Host
  advices : Table (List AdviceAction) := []
  guard : Nat := 0

namespace Body

/-- One more than a number; nothing else can be added to. -/
def successor : Value → Except Failure Value
  | .int n => .ok (.int (n + 1))
  | .bool b => .ok (.int (if b then 2 else 1))
  | v => .error (.uncombinable "+" (Value.int 1).typeName v.typeName)

/-- One less than a number, if it is positive; nothing else can be counted down. -/
def countDown : Value → Except Failure (Option Value)
  | .int n => .ok (if n ≤ 0 then none else some (.int (n - 1)))
  | .bool b => .ok (if b then some (.int 0) else none)
  | .float x =>
    .ok (if !x.isNaN && (x.isNegative || x.isZero) then none else some (.float x.predecessor))
  | v => .error (.outside (.incomparable "<=" v.typeName (Value.int 0).typeName))

/-- The receiver of a body: the value of the first parameter, if the function counts it as one. -/
def receiver (f : HostFunction) (bound : Table Value) : Value :=
  match bound with
  | first :: _ => if f.takesReceiver then first.2 else .null
  | [] => .null

def run (nested : Nested) (t : Target) (bound : Table Value) : Body → Act Run Value
  | .give v => .give v
  | .raise f => .raise f
  | .parameter name => .give ((bound.get? name).getD .null)
  | .locals =>
    .give (Value.pairs (if t.function.takesReceiver then bound.drop 1 else bound))
  | .call method positional =>
    nested.call ⟨.member (receiver t.function bound) method, { positional := positional }⟩
  | .recurse name => do
    match ← Act.ofExcept (countDown ((bound.get? name).getD .null)) with
    | none => return .int 0
    | some less =>
      let again := Callee.member (receiver t.function bound) t.member.name
      let v ← nested.call ⟨again, { positional := [less] }⟩
      Act.ofExcept (successor v)
  | .inTurn first rest => do
    let _ ← run nested t bound first
    run nested t bound rest
  | .catching catches tried handler => do
    match ← Act.attempt (run nested t bound tried) with
    | .ok v => return v
    | .error f => if catches f.kind then run nested t bound handler else Act.raise f

end Body

namespace Target

/-- All arguments of the method, the receiver first if there is one. -/
def allArguments (t : Target) : Arguments :=
  { t.arguments with positional := t.receiver.toList ++ t.arguments.positional }

/-- The method itself: binds the arguments and runs the body. -/
def enter (nested : Nested) (t : Target) : Act Run Value :=
  match Binding.bindCall t.function.signature.parameters t.allArguments with
  | none =>
    let mismatch := Binding.mismatch t.function.signature.parameters t.allArguments
    .raise (.callMismatch t.function.name mismatch)
  | some bound => do
    let r ← Act.read
    Run.emit (.body t.name r.inside)
    t.function.body.run nested t bound

end Target

namespace Advice

def runActions (nested : Nested) (s : Stage) (id : String) :
    AdviceSubject → List AdviceAction → Act Run Value
  | _, [] => .give .null
  | subject, action :: rest => do
    let note := fun o => Run.emit (.advice id o)
    match action with
    | .record =>
      let c ← subject.view "phase"
      note (.call c.site.descriptor.phase c.site.text c.receiver c.arguments c.result c.failure)
      runActions nested s id subject rest
    | .arguments =>
      let c ← subject.view "arguments"
      let bound ← Act.ofExcept (Binding.bindSeen c.parameters c.arguments)
      note (.arguments bound)
      runActions nested s id subject rest
    | .argument index =>
      let c ← subject.view "argument"
      let v ← Act.ofExcept (Binding.seenArgument c.parameters c.arguments index)
      note (.argument index v)
      runActions nested s id subject rest
    | .inside =>
      let r ← Act.read
      note (.inside r.inside)
      runActions nested s id subject rest
    | .faults =>
      let r ← Act.read
      note (.faults (r.faultsOf s.guard))
      runActions nested s id subject rest
    | .raise f => Act.raise f
    | .give v => return v
    | .call method positional =>
      let c ← subject.view "instance"
      let v ← nested.call ⟨.member (c.receiver.getD .null) method, { positional := positional }⟩
      note (.called v)
      runActions nested s id subject rest
    | .setResult v => runActions nested s id (subject.withResult v) rest
    | .setKeyword .. =>
      let _ ← subject.view "kwargs"
      Act.raise .readOnlyArguments
    | .invoke other site =>
      match s.advices.get? other with
      | none => Act.raise (.missingKey other)
      | some actions =>
        let r ← guarded s.guard (.bare site) (nested.advise (.scripted other actions))
        note (.invoked r)
        runActions nested s id subject rest

def run (nested : Nested) (s : Stage) (subject : AdviceSubject) : Advice → Act Run Value
  | .scripted id actions => runActions nested s id subject actions
  | .spanNaming _ policyFailure => do
    let c ← subject.view "argument"
    let context ← Act.ofExcept (Binding.seenArgument c.parameters c.arguments 0)
    Run.emit (.span context)
    match policyFailure with
    | some f => Act.raise f
    | none => return .null

end Advice

namespace Layer

def view (l : Layer) (t : Target) (result : Value) (failure : Option Failure) : AdviceCall :=
  { site := l.site
    parameters := t.function.shown.withoutReceiver t.kind
    receiver := t.receiver
    arguments := t.arguments
    result := result
    failure := failure }

def fire (nested : Nested) (s : Stage) (t : Target) (l : Layer) (result : Value)
    (failure : Option Failure) : Act Run Unit := do
  let _ ← guarded l.guard (.call (l.view t result failure)) fun subject =>
    l.site.descriptor.advice.run nested s subject

/-- A layer around the rest of a call. -/
def around (nested : Nested) (s : Stage) (t : Target) (rest : Act Run Value) (l : Layer) :
    Act Run Value :=
  match l.site.descriptor.phase with
  | .onEntry => do
    l.fire nested s t .null none
    rest
  | phase => do
    match ← Act.attempt rest with
    | .ok v =>
      l.fire nested s t v none
      return v
    | .error f =>
      if phase = .onExitIncludingFailure then l.fire nested s t .null (some f)
      Act.raise f

end Layer

/-- The method with its layers around it, the innermost first. -/
def Target.layered (nested : Nested) (s : Stage) (t : Target) : Act Run Value :=
  t.member.layers.foldl (Layer.around nested s t) (t.enter nested)

namespace Stage

/-- Runs the body of a property if one was found; anything else is as it is. -/
def read (nested : Nested) (s : Stage) : Found → Act Run Found
  | .property f => do return .value (← (f.target s.host {}).enter nested)
  | found => .give found

/-- Looks up a member of a thing and reads it, without asking any special member. -/
def lookUpPlainly (nested : Nested) (s : Stage) (subject : Value) (name : String) : Act Run Found :=
  match s.host.member? subject name <|> s.host.universal? subject name with
  | some found => s.read nested found
  | none => Act.raise (.outside (.noMember subject name))

/-- Asks a special member of a thing for a member. -/
def ask (nested : Nested) (subject : Value) (name special : String) : Act Run Found := do
  let v ← nested.call ⟨.special subject special, { positional := [.text name] }⟩
  return .value v

/-- Looks up a member of a thing and reads it. An instance may have a special member that is asked
instead, and another one that stands in if a member is missing. -/
def lookUp (nested : Nested) (s : Stage) (subject : Value) (name : String) : Act Run Found :=
  match subject with
  | .instanceOf _ =>
    let asked :=
      if s.host.declares subject Special.read then ask nested subject name Special.read
      else s.lookUpPlainly nested subject name
    Act.orElse asked fun f =>
      if f.kind = .attribute && s.host.declares subject Special.readMissing then
        ask nested subject name Special.readMissing
      else Act.raise f
  | _ => s.lookUpPlainly nested subject name

def callFound (nested : Nested) (s : Stage) (a : Arguments) : Found → Act Run Value
  | .method f => (f.target s.host a).layered nested s
  | .property f => do
    let v ← (f.target s.host {}).enter nested
    nested.call ⟨.thing v, a⟩
  | .value v => nested.call ⟨.thing v, a⟩
  | .idle refused =>
    match refused a with
    | some f => .raise f
    | none => .give .null

def prepare (nested : Nested) (s : Stage) (made : Value) (a : Arguments) : Act Run Value := do
  match s.host.member? made Special.prepare with
  | none => return made
  | some found =>
    match ← s.callFound nested a found with
    | .null => return made
    | v => Act.raise (.preparationResult v.typeName)

/-- Makes an instance of a class and prepares it. A class may have a special member that makes
something else, which is prepared only if it is an instance of the class. Arguments are for these
two. -/
def make (nested : Nested) (s : Stage) (c : ClassRef) (a : Arguments) : Act Run Value := do
  let made ← match s.host.member? (.classOf c) Special.construct with
    | some found =>
      s.callFound nested { a with positional := .classOf c :: a.positional } found
    | none =>
      if a.isEmpty || s.host.declares (.classOf c) Special.prepare then Act.give (.instanceOf c)
      else Act.raise (.takesNothing (Value.instanceOf c).typeName)
  if s.host.isInstance made c.index then s.prepare nested made a else return made

/-- Calls a thing: a class makes an instance, an instance runs its special member for calls, and
nothing else can be called. -/
def callThing (nested : Nested) (s : Stage) (a : Arguments) (v : Value) : Act Run Value :=
  match v with
  | .classOf c => s.make nested c a
  | .instanceOf _ =>
    match s.host.member? v Special.call with
    | some found => s.callFound nested a found
    | none => .raise (.notCallable v.typeName)
  | _ => .raise (.notCallable v.typeName)

/-- One call, with calls inside it made by `nested`. -/
def performWith (nested : Nested) (s : Stage) (r : Request) : Act Run Value := do
  match r.callee with
  | .member subject name => s.callFound nested r.arguments (← s.lookUp nested subject name)
  | .special subject name =>
    match s.host.member? subject name with
    | some found => s.callFound nested r.arguments found
    | none => Act.raise (.outside (.noMember subject name))
  | .thing v => s.callThing nested r.arguments v

/-- Calls and advice with at most `n` of them open at a time. -/
def perform (s : Stage) : Nat → Nested
  | 0 => .exhausted
  | n + 1 =>
    { call := fun request => s.performWith (perform s n) request
      advise := fun advice subject => advice.run (perform s n) s subject }

/-- Runs the special member of the bases of a class that has just been declared, on the class. -/
def announce (s : Stage) (n : Nat) (c : HostClass) : Act Run Unit := do
  match s.host.found? c.lineage.tail (.classOf c.ref) Special.subclassed with
  | none => return ()
  | some found => let _ ← s.callFound (s.perform n) {} found

/-- Asks a guard to run advice, with at most `n` calls and pieces of advice open at a time. -/
def invoke (s : Stage) (n : Nat) (advice : Advice) (site : Option String) : Act Run AdviceResult :=
  guarded s.guard (.bare site) ((s.perform n).advise advice)

end Stage

end AspectAgent
