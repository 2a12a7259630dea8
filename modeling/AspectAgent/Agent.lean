import AspectAgent.Config
import AspectAgent.Weaving.Weaver

/-!
# The agent

The agent holds the instrumentation modules that have been registered, each name at most once, and
weaves their descriptors into classes. A class gets the descriptors that match it, in the order of
registration; a descriptor that cannot be woven is reported and does not stop the others.
-/

namespace AspectAgent

/-- An agent: its configuration, its modules and descriptors in the order of registration, its
guard, and what it has woven. -/
structure Agent where
  config : AgentConfig := {}
  modules : List InstrumentationModule := []
  descriptors : List Descriptor := []
  guard : Nat := 0
  registry : Registry := {}
  deriving Inhabited

namespace Agent

def hasModule (a : Agent) (name : String) : Bool := a.modules.any fun m => m.name == name

def add (a : Agent) (m : InstrumentationModule) : Agent :=
  { a with modules := a.modules ++ [m], descriptors := a.descriptors ++ m.descriptors }

def disabledRecord (name : String) : LogRecord :=
  { logger := "agentweave.core.agent"
    level := infoLevel
    message := .text "Instrumentation module %s disabled"
    arguments := [.text name] }

/-- Registers a module, and tells whether it was. A disabled module is reported and skipped; a
second module of one name is refused. -/
def register (a : Agent) (m : InstrumentationModule) : Act Run (Bool × Agent) :=
  if !a.config.isModuleEnabled m.name then do
    report (disabledRecord m.name)
    return (false, a)
  else if a.hasModule m.name then Act.raise (.duplicateModule m.name)
  else return (true, a.add m)

/-- The modules whose import may bring a class that a descriptor matches. -/
def moduleHints (a : Agent) : NameSet :=
  NameSet.ofList (a.descriptors.filterMap fun d =>
    let hint := d.typeMatcher.matcher.moduleHint
    if Matcher.isTelling hint then hint else none)

def failedRecord (d : Descriptor) (target : String) (f : Failure) : LogRecord :=
  { logger := "agentweave.core.agent"
    level := warningLevel
    message := .text "Weaving failed; class left as loaded"
    extra := [("descriptor", .text d.text), ("target", .text target)]
    report := .of f }

/-- Weaves descriptors into a class one after the other and returns all sites. An ordinary failure
of one is reported, and the next is woven. -/
def weaveAll (guard c : Nat) (target : String) : List Descriptor → Act Loom (List Site)
  | [] => .give []
  | d :: ds => do
    let sites ← Act.orElse (Loom.weave guard c d) fun f => do
      report (failedRecord d target f)
      return []
    let rest ← weaveAll guard c target ds
    return sites ++ rest

/-- Weaves every matching descriptor into a class and returns the sites. -/
def transform (a : Agent) (c : Nat) : Act Loom (List Site) := do
  if !a.config.enabled.truthy then return []
  let l ← Act.read
  match l.host.class? c with
  | none => return []
  | some cls =>
    let selected ← Loom.running (Selection.descriptorsFor cls.describe a.descriptors)
    weaveAll a.guard c cls.name selected

end Agent

end AspectAgent
