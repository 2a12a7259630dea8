import AspectAgent.Descriptor
import AspectAgent.Host.Binding

/-!
# The host program

The host is a list of classes in the order of their declaration. A member of a class is a method
with a body, or something that is no method. Around each member lie the layers of advice that have
been woven into it, from the innermost to the outermost; a freshly declared class has none. A class
finds its members along its lineage, which starts with itself and keeps the order of all its bases.

Members of some names are special: the host itself calls them, as `Special` tells, and functions of
three of these names are no methods of instances however they are declared.
-/

namespace AspectAgent

namespace Special

/-- Makes a new instance of the class that is its first argument. -/
def construct : String := "__new__"

/-- Prepares a new instance; it returns null. -/
def prepare : String := "__init__"

/-- Runs when an instance is called. -/
def call : String := "__call__"

/-- Runs when a member of an instance is read. -/
def read : String := "__getattribute__"

/-- Runs when a member of an instance was not found. -/
def readMissing : String := "__getattr__"

/-- Runs on a class when it has been declared under a base that has this member. -/
def subclassed : String := "__init_subclass__"

/-- Runs on a class that is given an index. -/
def index : String := "__class_getitem__"

/-- The class of an instance. -/
def ownClass : String := "__class__"

end Special

namespace MethodKind

/-- How a function takes its receiver that is declared under a name: a function that makes instances
does not have one, and one about subclasses or indices has the class. -/
def underName (name : String) : MethodKind → MethodKind
  | .onInstance =>
    if name = Special.construct then .receiverless
    else if name = Special.subclassed || name = Special.index then .onClass
    else .onInstance
  | kind => kind

end MethodKind

/-- What a method does. -/
inductive Body where
  | give (v : Value)
  | raise (f : Failure)
  | parameter (name : String)
  /-- Returns the names and values of all parameters but the receiver. -/
  | locals
  | call (method : String) (positional : List Value)
  /-- Zero if the parameter is not positive, else one more than the same method on the receiver with
  one less. -/
  | recurse (parameter : String)
  /-- One body and then another, whose value it returns. -/
  | inTurn (first rest : Body)
  /-- A body with a handler for the failures of some classes. -/
  | catching (catches : FailureKind → Bool) (tried handler : Body)
  deriving Inhabited

/-- A function of the host: its name, its signature and its body, and whether the body counts the
first parameter as the receiver. A function that is wrapped around another one can tell the
signature of that one. -/
structure HostFunction where
  name : String
  signature : Signature
  body : Body
  takesReceiver : Bool := true
  wrapped : Option Signature := none
  deriving Inhabited

namespace HostFunction

/-- The signature that is seen from outside. A call binds its arguments to the function's own one.
-/
def shown (f : HostFunction) : Signature := f.wrapped.getD f.signature

end HostFunction

/-- What a member of a class is. -/
inductive MemberContent where
  | method (kind : MethodKind) (function : HostFunction)
  /-- Another class, by its number. -/
  | nested (c : Nat)
  /-- A function that runs whenever the member is read on an instance: no method. -/
  | property (function : HostFunction)
  | value (v : Value)
  deriving Inhabited

namespace MemberContent

/-- What a member is that is declared under a name. -/
def underName (name : String) : MemberContent → MemberContent
  | .method kind f => .method (kind.underName name) f
  | content => content

end MemberContent

/-- A member of a class, with its layers of advice from the innermost to the outermost. -/
structure Member where
  name : String
  content : MemberContent
  layers : List Layer := []

namespace Member

def describe? (m : Member) : Option MethodDescription :=
  match m.content with
  | .method kind f => some (f.shown.describe m.name kind)
  | _ => none

end Member

structure HostClass where
  index : Nat
  module : String
  qualname : String
  members : List Member
  /-- The class and its ancestors in the order in which members are looked up. -/
  lineage : List Nat
  /-- The members that cannot be assigned. -/
  locked : List String := []

instance : Inhabited HostClass := ⟨⟨0, "", "", [], [], []⟩⟩

namespace HostClass

def name (c : HostClass) : String := c.module ++ "." ++ c.qualname

def ref (c : HostClass) : ClassRef := ⟨c.index, c.name⟩

def describe (c : HostClass) : TypeDescription := ⟨c.name⟩

def typeName (c : HostClass) : String :=
  let written := Annotation.ofClass c.module c.qualname
  written.typeName

def member? (c : HostClass) (name : String) : Option Member :=
  c.members.find? fun m => m.name == name

/-- The description, under a name, of the member that the class itself declares, if it is a method.
-/
def describe? (c : HostClass) (member name : String) : Option MethodDescription :=
  (c.member? member).bind fun m => Member.describe? { m with name := name }

/-- The methods that the class itself declares, in order. -/
def declaredMethods (c : HostClass) : List MethodDescription :=
  c.members.filterMap Member.describe?

def nestedClasses (c : HostClass) : List Nat :=
  c.members.filterMap fun m =>
    match m.content with
    | .nested n => some n
    | _ => none

def addLayer (c : HostClass) (name : String) (l : Layer) : HostClass :=
  { c with
    members := c.members.map fun m =>
      if m.name = name then { m with layers := m.layers ++ [l] } else m }

def unwoven (c : HostClass) : HostClass :=
  { c with members := c.members.map fun m => { m with layers := [] } }

def wovenMembers (c : HostClass) : List String :=
  (c.members.filter fun m => !m.layers.isEmpty).map Member.name

end HostClass

/-- The host program: its classes, numbered by their places. -/
structure Host where
  classes : List HostClass := []
  deriving Inhabited

/-- What is said about a class when it is declared. -/
structure ClassDeclaration where
  module : String
  qualname : String
  members : List (String × MemberContent)
  bases : List Nat := []
  locked : List String := []

/-- Takes the first head that is in no tail, again and again: the order that keeps each of the given
orders. -/
def mergeLineages : Nat → List (List Nat) → Option (List Nat)
  | 0, _ => none
  | fuel + 1, orders =>
    let orders := orders.filter fun o => !o.isEmpty
    if orders.isEmpty then some []
    else
      match (orders.filterMap List.head?).find? fun h => orders.all fun o => !o.tail.contains h with
      | none => none
      | some h =>
        (mergeLineages fuel (orders.map fun o => if o.head? = some h then o.tail else o)).map
          (h :: ·)

namespace Host

def class? (h : Host) (c : Nat) : Option HostClass := h.classes[c]?

/-- The class and its ancestors in the order in which members are looked up. -/
def lineage (h : Host) (c : Nat) : List Nat := ((h.class? c).map HostClass.lineage).getD []

/-- The lineage of a class with given bases, without the class itself. -/
def lineageOf (h : Host) (bases : List Nat) : Option (List Nat) :=
  let orders := bases.map h.lineage
  -- each round but the last takes the same head from at least one list
  mergeLineages (((orders.map List.length).foldl (· + ·) 0) + bases.length + 1) (orders ++ [bases])

/-- Declares a class. A member that is declared again is replaced in its place. -/
def declare (h : Host) (d : ClassDeclaration) : Except Failure (HostClass × Host) :=
  match h.lineageOf d.bases with
  | none => .error .inconsistentBases
  | some ancestors =>
    let index := h.classes.length
    let members : List Member := (Table.ofPairs d.members).map fun e =>
      { name := e.1, content := e.2.underName e.1 }
    let c : HostClass := ⟨index, d.module, d.qualname, members, index :: ancestors, d.locked⟩
    .ok (c, { h with classes := h.classes ++ [c] })

def modify (h : Host) (c : Nat) (g : HostClass → HostClass) : Host :=
  { h with classes := h.classes.modify c g }

/-- Finds a member along a lineage: the class that declares it, and the member. -/
def find? (h : Host) (lineage : List Nat) (name : String) : Option (HostClass × Member) :=
  lineage.findSome? fun a =>
    match h.class? a with
    | none => none
    | some owner => (owner.member? name).map fun m => (owner, m)

/-- Is a value an instance of a class or of one that descends from it? -/
def isInstance (h : Host) (v : Value) (c : Nat) : Bool :=
  match v with
  | .instanceOf d => (h.lineage d.index).contains c
  | _ => false

def unwoven (h : Host) : Host := { h with classes := h.classes.map HostClass.unwoven }

end Host

end AspectAgent
