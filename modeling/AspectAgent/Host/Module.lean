import AspectAgent.Host.Program

/-!
# Host modules

A module of the host has attributes, some of which are classes. The classes it declares are those
reachable from its attributes through classes that belong to the module, nested classes included;
classes of other modules are passed over, with everything below them. They are listed in
breadth-first order, each once.
-/

namespace AspectAgent

/-- The classes among the attributes of a module, in order. -/
structure HostModule where
  name : String
  classes : List Nat := []
  deriving Inhabited

namespace HostModule

/-- The names of the packages a module lies in, outermost first, and its own. -/
def ancestry (name : String) : List String :=
  let parts := name.splitOn "."
  (List.range parts.length).map fun n => ".".intercalate (parts.take (n + 1))

/-- Those of a list of classes that belong to a module and have not been seen, each once. -/
def fresh (h : Host) (module : String) (seen : List Nat) : List Nat → List Nat
  | [] => []
  | c :: rest =>
    match h.class? c with
    | none => fresh h module seen rest
    | some cls =>
      if cls.module = module ∧ c ∉ seen then c :: fresh h module (c :: seen) rest
      else fresh h module seen rest

def nestedIn (h : Host) (classes : List Nat) : List Nat :=
  classes.flatMap fun c => ((h.class? c).map HostClass.nestedClasses).getD []

/-- The walk: the fresh classes of a level, then those nested in them. It ends when a level has no
fresh class; every other level has at least one class of the host. -/
def walk (h : Host) (module : String) : Nat → List Nat → List Nat → List Nat
  | 0, _, _ => []
  | n + 1, seen, pending =>
    match fresh h module seen pending with
    | [] => []
    | found => found ++ walk h module n (seen ++ found) (nestedIn h found)

/-- The classes a module declares, breadth first. -/
def declaredClasses (m : HostModule) (h : Host) : List Nat :=
  walk h m.name (h.classes.length + 1) [] m.classes

end HostModule

end AspectAgent
