import AspectAgent.Host.Binding
import AspectAgent.Host.Program

/-!
# Looking up members

A member is looked up on a thing: along the lineage of the class of an instance, or along that of a
class itself. What is found is a method that can be called, a property whose body is still to run,
or a value. A method gets its receiver when it is called, which makes a `Target` of it.
-/

namespace AspectAgent

/-- What is called. -/
inductive Callee where
  | member (subject : Value) (name : String)
  /-- A special member of a name, which is looked up on the class of a thing without further ado. -/
  | special (subject : Value) (name : String)
  | thing (v : Value)
  deriving Inhabited

/-- A call: what is called, and the arguments. -/
structure Request where
  callee : Callee
  arguments : Arguments := {}
  deriving Inhabited

/-- A method found for a call: the class that declares it, the member, its kind and function, the
receiver if there is one, and the arguments without the receiver. -/
structure Target where
  owner : HostClass
  member : Member
  kind : MethodKind
  function : HostFunction
  receiver : Option Value
  arguments : Arguments

namespace Target

/-- The site's name of the method: the class that declares it and the member. -/
def name (t : Target) : String := t.owner.name ++ "." ++ t.member.name

end Target

/-- A function found on a thing: the class that declares it, the member, its kind and function, and
the thing on which it was looked up. -/
structure FoundFunction where
  owner : HostClass
  member : Member
  kind : MethodKind
  function : HostFunction
  subject : Value

namespace FoundFunction

/-- The call of the function with arguments. A method that takes an instance and is looked up on a
class has as its receiver the first argument if that is an instance of the class. It has none
otherwise: all arguments are then its own. -/
def target (h : Host) (f : FoundFunction) (a : Arguments) : Target :=
  let make := fun receiver arguments => ⟨f.owner, f.member, f.kind, f.function, receiver, arguments⟩
  match f.kind, f.subject, a.positional with
  | .receiverless, _, _ => make none a
  | .onClass, .instanceOf c, _ => make (some (.classOf c)) a
  | .onClass, v, _ => make (some v) a
  | .onInstance, .classOf c, v :: vs =>
    if h.isInstance v c.index then make (some v) { a with positional := vs } else make none a
  | .onInstance, .classOf _, [] => make none a
  | .onInstance, v, _ => make (some v) a

@[simp] theorem target_member (h : Host) (f : FoundFunction) (a : Arguments) :
    (f.target h a).member = f.member := by
  unfold target
  dsimp only
  repeat' split
  all_goals rfl

end FoundFunction

/-- What is found when a member is looked up. -/
inductive Found where
  | method (f : FoundFunction)
  /-- A property on an instance: its body runs before anything else, and returns what is read. -/
  | property (f : FoundFunction)
  | value (v : Value)
  /-- What everything has: it does nothing but refuse some arguments. -/
  | idle (refused : Arguments → Option Failure)

namespace Host

/-- What a property is on the class itself. -/
def propertyOfClass : Value := .object "property"

def found? (h : Host) (lineage : List Nat) (subject : Value) (name : String) : Option Found :=
  (h.find? lineage name).map fun (owner, m) =>
    match m.content, subject with
    | .method kind f, _ => .method ⟨owner, m, kind, f, subject⟩
    | .property f, .instanceOf _ => .property ⟨owner, m, .onInstance, f, subject⟩
    | .property _, _ => .value propertyOfClass
    | .nested c, _ => .value (((h.class? c).map fun cls => .classOf cls.ref).getD .null)
    | .value v, _ => .value v

/-- The lineage on which the members of a thing are looked up. -/
def lineageFor (h : Host) : Value → List Nat
  | .instanceOf c | .classOf c => h.lineage c.index
  | _ => []

def member? (h : Host) (subject : Value) (name : String) : Option Found :=
  h.found? (h.lineageFor subject) subject name

/-- Does the class of an instance, or the class itself, declare or inherit a member? -/
def declares (h : Host) (subject : Value) (name : String) : Bool :=
  (h.find? (h.lineageFor subject) name).isSome

def qualnameOf (h : Host) : Value → String
  | .instanceOf c | .classOf c => ((h.class? c.index).map HostClass.qualname).getD ""
  | v => v.typeName

/-- Does the preparation that every thing has pass over arguments? It does if the arguments were for
the making of the thing. -/
def preparesAnyhow (h : Host) (v : Value) : Bool :=
  match v with
  | .list _ | .map _ | .usage .. | .object _ | .classOf _ => false
  | .instanceOf _ => h.declares v Special.construct && !h.declares v Special.prepare
  | _ => true

/-- What prepares any instance: it takes nothing but the instance, unless the arguments were for the
making of it. -/
def preparation (h : Host) (subject : Value) (a : Arguments) : Option Failure :=
  let given := match subject with
    | .classOf _ => a.positional
    | _ => subject :: a.positional
  match given with
  | [] => some .instanceMissing
  | v :: vs =>
    if vs.isEmpty && a.keywords.isEmpty || h.preparesAnyhow v then none
    else some (.surplusPreparation v.typeName)

/-- What everything has that does not declare it. -/
def idle? (h : Host) (subject : Value) (name : String) : Option (Arguments → Option Failure) :=
  if name = Special.construct then
    some fun a => some (.classMissing (a.positional.head?.map Value.typeName))
  else if name = Special.subclassed then
    some fun a =>
      if a.isEmpty then none
      else some (.surplusAnnouncement (h.qualnameOf subject) a.positional.length)
  else if name = Special.prepare then some (h.preparation subject)
  else none

/-- What everything has that does not declare it, and what every instance or class has. -/
def universal? (h : Host) (subject : Value) (name : String) : Option Found :=
  match h.idle? subject name, subject with
  | some refused, _ => some (.idle refused)
  | none, .instanceOf c => if name = Special.ownClass then some (.value (.classOf c)) else none
  | none, .classOf _ => if name = Special.call then some (.value subject) else none
  | none, _ => none

end Host

end AspectAgent
