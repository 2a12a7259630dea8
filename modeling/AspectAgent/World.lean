import AspectAgent.Agent
import AspectAgent.Host.Call
import AspectAgent.Host.Module

/-!
# Agents deployed into a running host

A world is a running host with its modules and the agents deployed into it. Classes exist once their
module has been imported, so an agent asks to be told of imports: for each module that a descriptor
hints at it registers one hook, which transforms the classes that the module declares. A hook for a
module that has not been imported waits for the import; for an imported one it runs at once. A hook
never lets an ordinary failure out, unless the report of that failure fails too; an import whose
hook fails is undone.

`startUp` builds an agent from its modules, captures diagnostics if the configuration asks for it,
and installs the hooks.
-/

namespace AspectAgent

/-- An agent deployed into a host: the modules it has asked about, the sites its hooks have woven,
and the archive of its own diagnostics, if it captures them. -/
structure Deployment where
  agent : Agent := {}
  hooked : NameSet := []
  sites : List Site := []
  diagnostics : Option Nat := none
  deriving Inhabited

/-- A hook: the module it is registered for, the deployment that runs it, and whether it still waits
for an import of the module. -/
structure ImportHook where
  module : String
  deployment : Nat
  waits : Bool
  deriving DecidableEq, Repr, Inhabited

/-- A running host. -/
structure World where
  host : Host := {}
  importable : Table HostModule := []
  imported : Table HostModule := []
  hooks : List ImportHook := []
  deployments : List Deployment := []
  /-- The instances on which calls are made, by the numbers of their classes. -/
  instances : List (Nat × Value) := []
  run : Run := {}
  deriving Inhabited

instance : HasChannel World where
  channel w := w.run.channel
  setChannel c w := { w with run := { w.run with channel := c } }

namespace World

def deployment (w : World) (i : Nat) : Deployment := w.deployments.getD i {}

def modifyDeployment (w : World) (i : Nat) (g : Deployment → Deployment) : World :=
  { w with deployments := w.deployments.modify i g }

def running {α : Type} (x : Act Run α) : Act World α :=
  Act.within World.run (fun r w => { w with run := r }) x

def loom (w : World) (i : Nat) : Loom := ⟨w.host, (w.deployment i).agent.registry, w.run⟩

def setLoom (i : Nat) (l : Loom) (w : World) : World :=
  { w with host := l.host, run := l.run }.modifyDeployment i fun d =>
    { d with agent := { d.agent with registry := l.registry } }

def weaving {α : Type} (i : Nat) (x : Act Loom α) : Act World α :=
  Act.within (fun w => w.loom i) (setLoom i) x

def transform (i c : Nat) : Act World (List Site) := do
  let w ← Act.read
  weaving i ((w.deployment i).agent.transform c)

def weave (i c : Nat) (d : Descriptor) : Act World (List Site) := do
  let w ← Act.read
  weaving i (Loom.weave (w.deployment i).agent.guard c d)

def configure (i : Nat) (c : AgentConfig) (w : World) : World :=
  w.modifyDeployment i fun d => { d with agent := { d.agent with config := c } }

def register (i : Nat) (m : InstrumentationModule) : Act World Bool := do
  let w ← Act.read
  let (accepted, agent) ← running ((w.deployment i).agent.register m)
  Act.change fun w => w.modifyDeployment i fun d => { d with agent := agent }
  return accepted

def hookFailedRecord (module : String) (f : Failure) : LogRecord :=
  { logger := "agentweave.adapters.import_hooks"
    level := warningLevel
    message := .text "Post-import transform failed"
    extra := [("target", .text module)]
    report := .of f }

/-- The hook: transforms every class that a module declares. -/
def onImport (i : Nat) (m : HostModule) : Act World Unit := do
  let w ← Act.read
  let transformAll := Act.forEach (m.declaredClasses w.host) fun c => do
    let sites ← transform i c
    Act.change fun w => w.modifyDeployment i fun d => { d with sites := d.sites ++ sites }
  Act.orElse transformAll fun f => report (hookFailedRecord m.name f)

/-- The deployments whose hooks wait for a module, in the order of registration. -/
def waitingFor (w : World) (module : String) : List Nat :=
  (w.hooks.filter fun h => h.module == module && h.waits).map ImportHook.deployment

/-- Lets no hook wait for a module any longer. -/
def releaseHooks (module : String) (w : World) : World :=
  let release := fun h : ImportHook => if h.module = module then { h with waits := false } else h
  { w with hooks := w.hooks.map release }

/-- Registers the hook of a deployment for a module. It runs at once if the module has been imported
and waits for the import if not. -/
def addHook (i : Nat) (module : String) : Act World Unit := do
  let found := (← Act.read).imported.get? module
  Act.change fun w => { w with hooks := w.hooks ++ [⟨module, i, found.isNone⟩] }
  match found with
  | some m => onImport i m
  | none => return ()

def hookRecord (module : String) : LogRecord :=
  { logger := "agentweave.adapters.import_hooks"
    level := debugLevel
    message := .text "Post-import hook registered for %s"
    arguments := [.text module] }

/-- Registers a hook for each hinted module that has none yet, in ascending order, and returns their
names. -/
def installHooks (i : Nat) : Act World NameSet := do
  let w ← Act.read
  let d := w.deployment i
  if !d.agent.config.enabled.truthy then return []
  let new := d.agent.moduleHints.filter fun n => !d.hooked.contains n
  Act.change fun w => w.modifyDeployment i fun d => { d with hooked := d.hooked.union new }
  Act.forEach new fun n => do
    addHook i n
    report (hookRecord n)
  return new

/-- Makes a module importable, and the packages it lies in. -/
def addModule (m : HostModule) (w : World) : World :=
  let packages := (HostModule.ancestry m.name).filter fun n => n != m.name && !w.importable.has n
  { w with
    importable := (packages.foldl (fun t n => t.put n { name := n }) w.importable).put m.name m }

/-- Imports one module, whose packages have been imported: its body runs, then the hooks that wait
for it. If a hook fails the module is not imported. -/
def load (name : String) : Act World Unit := do
  let w ← Act.read
  if w.imported.has name then return ()
  match w.importable.get? name with
  | none => Act.raise (.noSuchModule name)
  | some m =>
    Act.change fun w => { w with imported := w.imported.put name m }.releaseHooks name
    match ← Act.attempt (Act.forEach (w.waitingFor name) fun i => onImport i m) with
    | .ok () => return ()
    | .error f =>
      Act.change fun w => { w with imported := w.imported.remove name }
      Act.raise f

/-- Imports a module, its packages first. Its name must be absolute. -/
def importModule (name : String) : Act World Unit :=
  if name.isEmpty then Act.raise .emptyImport
  else if name.startsWith "." then Act.raise .relativeImport
  else Act.forEach (HostModule.ancestry name) load

/-- Deploys an agent with a configuration and a guard of its own; its number is the count of those
before. -/
def deploy (config : AgentConfig) (diagnostics : Option Nat) (w : World) : World :=
  let agent : Agent := { config := config, guard := w.run.guards.length }
  let guard : Guard := { reportsFaults := config.logAdviceFaults.truthy }
  { w with
    run := { w.run with guards := w.run.guards ++ [guard] }
    deployments := w.deployments ++ [{ agent := agent, diagnostics := diagnostics }] }

/-- The capacity of the archive into which start-up captures diagnostics. -/
def diagnosticsCapacity : Nat := 1000

/-- Captures diagnostics of the warning level and above in a ring, and returns its number. -/
def captureDiagnostics : Act World Nat := do
  let w ← Act.read
  let number := w.run.channel.archives.length
  Act.within HasChannel.channel HasChannel.setChannel
    (Act.change fun c : LogChannel =>
      let c := c.addArchive { capacity := some diagnosticsCapacity }
      c.capture warningLevel (.archive number))
  return number

/-- Starts an agent for some modules and returns the number of its deployment. Without a
configuration the environment is read. -/
def startUp (modules : List InstrumentationModule) (config : Option AgentConfig)
    (environment : Table String) : Act World Nat := do
  let config ← match config with
    | some c => Act.give c
    | none => Act.ofExcept (AgentConfig.ofEnvironment environment)
  let diagnostics ← if config.captureDiagnostics.truthy then some <$> captureDiagnostics
    else Act.give none
  let w ← Act.read
  let i := w.deployments.length
  Act.change (deploy config diagnostics)
  Act.forEach modules fun m => do
    let _ ← register i m
  let _ ← installHooks i
  return i

/-- The archive into which start-up captured diagnostics for a deployment. -/
def diagnosticsOf (w : World) (i : Nat) : Except Failure (Archive LogEntry) :=
  match (w.deployment i).diagnostics with
  | some n => .ok (w.run.channel.archive n)
  | none => .error (.outside (.noMember .null "read"))

/-- The stage for a call of the host, on which faults are those of a deployment's guard. -/
def stage (w : World) (i : Nat) (advices : Table (List AdviceAction)) : Stage :=
  ⟨w.host, advices, (w.deployment i).agent.guard⟩

/-- A call of the host, with at most `depth` calls open at a time. -/
def call (i depth : Nat) (advices : Table (List AdviceAction)) (r : Request) : Act World Value := do
  let w ← Act.read
  running (((w.stage i advices).perform depth).call r)

/-- The instance of a class on which calls are made. It is made when it is first asked for, and
again if that failed. -/
def instanceFor (i depth : Nat) (advices : Table (List AdviceAction)) (c : HostClass) :
    Act World Value := do
  match (← Act.read).instances.lookup c.index with
  | some v => return v
  | none =>
    let v ← call i depth advices ⟨.thing (.classOf c.ref), {}⟩
    Act.change fun w => { w with instances := (c.index, v) :: w.instances }
    return v

def invoke (i depth : Nat) (advices : Table (List AdviceAction)) (advice : Advice)
    (site : Option String) : Act World AdviceResult := do
  let w ← Act.read
  running ((w.stage i advices).invoke depth advice site)

/-- Declares a class, announces it to its bases and returns it. -/
def declare (i depth : Nat) (advices : Table (List AdviceAction)) (d : ClassDeclaration) :
    Act World HostClass := do
  let (c, host) ← Act.ofExcept ((← Act.read).host.declare d)
  Act.change fun w => { w with host := host }
  let w ← Act.read
  running ((w.stage i advices).announce depth c)
  return c

/-- The world in which a first agent has been deployed, its diagnostics captured from a level on in
an unbounded archive, with a further handler that fails on every record if one is given. -/
def initial (config : AgentConfig) (level : Int) (faultyHandler : Option Failure) : World :=
  deploy config none { run := { channel := LogChannel.captured level faultyHandler } }

end World

end AspectAgent
