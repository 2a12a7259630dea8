import AspectAgent.Failure
import AspectAgent.Text.Blank

/-!
# Configuration

Four settings decide what the agent does. They can be read from named environment variables: a
switch is one of eight words, with white space around it and capitals allowed, and the disabled
modules are names between commas, with white space around them and blank pieces allowed.
-/

namespace AspectAgent

/-- A finite set of names, kept in ascending order without repetitions. -/
abbrev NameSet := List String

namespace NameSet

def insert (s : NameSet) (n : String) : NameSet :=
  match s with
  | [] => [n]
  | m :: rest => if n = m then m :: rest else if n < m then n :: m :: rest else m :: insert rest n

def ofList (names : List String) : NameSet := names.foldl insert []

def union (s : NameSet) (names : List String) : NameSet := names.foldl insert s

theorem mem_insert {s : NameSet} {n m : String} : m ∈ s.insert n ↔ m = n ∨ m ∈ s := by
  induction s with
  | nil => simp [insert]
  | cons k rest ih =>
    simp only [insert]
    split
    · next h => subst h; simp
    · split
      · simp
      · simp only [List.mem_cons, ih]
        constructor
        · rintro (h | h | h) <;> simp [h]
        · rintro (h | h | h) <;> simp [h]

theorem mem_union {names : List String} {s : NameSet} {m : String} :
    m ∈ s.union names ↔ m ∈ s ∨ m ∈ names := by
  induction names generalizing s with
  | nil => simp [union]
  | cons n rest ih =>
    show m ∈ (s.insert n).union rest ↔ _
    rw [ih, mem_insert]
    simp only [List.mem_cons]
    constructor
    · rintro ((h | h) | h) <;> simp [h]
    · rintro (h | h | h) <;> simp [h]

theorem mem_ofList {names : List String} {m : String} : m ∈ ofList names ↔ m ∈ names := by
  show m ∈ union [] names ↔ m ∈ names
  rw [mem_union]
  simp

end NameSet

/-- The configuration of an agent. A switch holds any value and is judged by its truth value. -/
structure AgentConfig where
  enabled : Value := .bool true
  disabledModules : NameSet := []
  captureDiagnostics : Value := .bool false
  logAdviceFaults : Value := .bool true
  deriving Inhabited

namespace AgentConfig

def settings : List String :=
  ["enabled", "disabled_modules", "capture_diagnostics", "log_advice_faults"]

def checkSettings (names : List String) : Except Failure Unit :=
  match names.find? fun n => !settings.contains n with
  | some n => .error (.callMismatch "AgentConfig.__init__" (.unexpected n))
  | none => .ok ()

/-- What the name of every environment variable of the agent starts with. -/
def variablePrefix : String := "AGENTWEAVE_"

def onWords : List String := ["1", "true", "yes", "on"]

def offWords : List String := ["0", "false", "no", "off"]

/-- The word in a text: without the white space at both ends, capitals mapped to small letters. No
letter beyond ASCII becomes a letter of one of the words, so ASCII capitals suffice. -/
def word (raw : String) : String := String.ofList (Text.lowerAscii (Text.trimChars raw.toList))

def readSwitch (setting raw : String) : Except Failure Bool :=
  if onWords.contains (word raw) then .ok true
  else if offWords.contains (word raw) then .ok false
  else .error (.notBoolean setting raw)

/-- Reads names between commas; white space around a name and blank pieces are dropped. -/
def readNames (raw : String) : NameSet :=
  let pieces := (Text.splitChars ',' raw.toList).map Text.trimChars
  NameSet.ofList ((pieces.filter fun p => !p.isEmpty).map String.ofList)

/-- A switch setting: its default if the variable is absent. -/
def switchFrom (env : Table String) (setting : String) (default : Value) :
    Except Failure Value :=
  match env.get? (variablePrefix ++ setting) with
  | none => .ok default
  | some raw => (readSwitch (variablePrefix ++ setting) raw).map .bool

def ofEnvironment (env : Table String) : Except Failure AgentConfig := do
  let enabled ← switchFrom env "ENABLED" (.bool true)
  let disabled := match env.get? (variablePrefix ++ "DISABLED_MODULES") with
    | none => []
    | some raw => readNames raw
  let capture ← switchFrom env "CAPTURE_DIAGNOSTICS" (.bool false)
  let logFaults ← switchFrom env "LOG_ADVICE_FAULTS" (.bool true)
  return ⟨enabled, disabled, capture, logFaults⟩

/-- Whether a module is enabled, as a value: the agent's own switch if that is off. -/
def moduleSwitch (c : AgentConfig) (name : String) : Value :=
  if c.enabled.truthy then .bool (!c.disabledModules.contains name) else c.enabled

def isModuleEnabled (c : AgentConfig) (name : String) : Bool := (c.moduleSwitch name).truthy

def disabling (c : AgentConfig) (names : List String) : AgentConfig :=
  { c with disabledModules := c.disabledModules.union names }

def same (c d : AgentConfig) : Bool :=
  c.enabled.same d.enabled && c.disabledModules == d.disabledModules &&
    c.captureDiagnostics.same d.captureDiagnostics && c.logAdviceFaults.same d.logAdviceFaults

end AgentConfig

end AspectAgent
