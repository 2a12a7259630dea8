import AspectAgent.Weaving.Selection

/-!
# Weaving

Weaving a descriptor into a class puts one layer of advice around each selected method, in the order
of declaration. A method that cannot be assigned ends the weaving; what has been installed until
then stays. However it ends, the installed sites are remembered under the class and the descriptor,
and weaving the same descriptor into the class again returns them and changes nothing.

A descriptor is remembered by its hash. One that cannot be hashed is woven into a class that nothing
has been woven into, and then not remembered; into any other class it is not woven at all, since it
cannot be looked up there.
-/

namespace AspectAgent

/-- The sites woven so far: for each class, in the order of first weaving, the sites of each
descriptor. A class is also known if a descriptor has been woven into it that could not be
remembered. -/
structure Registry where
  entries : List (Nat × DescriptorKey × List Site) := []
  attempted : List Nat := []
  deriving Inhabited

namespace Registry

def sites? (g : Registry) (c : Nat) (k : DescriptorKey) : Option (List Site) :=
  (g.entries.find? fun e => e.1 == c && e.2.1 = k).map fun e => e.2.2

def sitesOf (g : Registry) (c : Nat) : List Site :=
  (g.entries.filter fun e => e.1 == c).flatMap fun e => e.2.2

def knows (g : Registry) (c : Nat) : Bool :=
  g.attempted.contains c || g.entries.any fun e => e.1 == c

def remember (g : Registry) (c : Nat) (k : DescriptorKey) (sites : List Site) : Registry :=
  { g with entries := g.entries ++ [(c, k, sites)] }

/-- Looks the sites of a descriptor up. In a class that is known the descriptor must be hashed. -/
def lookUp (g : Registry) (c : Nat) (d : Descriptor) : Except Failure (Option (List Site)) :=
  match d.unhashable? with
  | none => .ok (g.sites? c d.key)
  | some f => if g.knows c then .error f else .ok none

/-- The registry after the sites of a descriptor have been installed. If the descriptor cannot be
hashed, only its class is known from then on. -/
def enter (g : Registry) (c : Nat) (d : Descriptor) (sites : List Site) : Registry :=
  match d.unhashable? with
  | none => g.remember c d.key sites
  | some _ => { g with attempted := g.attempted ++ [c] }

end Registry

/-- What weaving works on: the host, the sites woven so far, and the run. -/
structure Loom where
  host : Host := {}
  registry : Registry := {}
  run : Run := {}
  deriving Inhabited

instance : HasChannel Loom where
  channel l := l.run.channel
  setChannel c l := { l with run := { l.run with channel := c } }

namespace Loom

def running {α : Type} (x : Act Run α) : Act Loom α :=
  Act.within Loom.run (fun r l => { l with run := r }) x

/-- What came of installing layers: the sites installed, the failure that ended it, and the host. -/
structure Installation where
  sites : List Site
  fault : Option Failure
  host : Host

/-- Puts a layer around each method in turn, until one cannot be assigned. -/
def install (guard c : Nat) (cls : HostClass) (d : Descriptor) :
    List MethodDescription → Host → Installation
  | [], h => ⟨[], none, h⟩
  | m :: ms, h =>
    if cls.locked.contains m.name then ⟨[], some (.lockedMember m.name), h⟩
    else
      let site : Site := ⟨cls.name, m.name, d⟩
      let rest := install guard c cls d ms (h.modify c fun x => x.addLayer m.name ⟨site, guard⟩)
      { rest with sites := site :: rest.sites }

def wovenRecord (d : Descriptor) (target : String) (count : Nat) : LogRecord :=
  { logger := "agentweave.core.weaver"
    level := debugLevel
    message := .text "Woven %d method(s) into %s"
    arguments := [.int count, .text target]
    extra := [("descriptor", .text d.text), ("target", .text target)] }

/-- Weaves a descriptor into a class, its advice run by a guard, and returns the sites. If these
cannot be remembered, the weaving fails with that, whatever else has failed. -/
def weave (guard c : Nat) (d : Descriptor) : Act Loom (List Site) := fun l =>
  match l.registry.lookUp c d with
  | .error f => (.raised f, l)
  | .ok (some sites) => (.returned sites, l)
  | .ok none =>
    match l.host.class? c with
    | none => (.returned [], l)
    | some cls =>
      match running (Selection.methodsFor cls.describe d cls.declaredMethods) l with
      | (.returned methods, l) =>
        let done := install guard c cls d methods l.host
        let l := { l with
          host := done.host
          registry := l.registry.enter c d done.sites }
        match d.unhashable?.or done.fault with
        | some f => (.raised f, l)
        | none =>
          (do report (wovenRecord d cls.name done.sites.length)
              return done.sites : Act Loom (List Site)) l
      | (.raised f, l) =>
        -- nothing has been installed, and it is not attempted again
        (.raised (d.unhashable?.getD f), { l with registry := l.registry.enter c d [] })
      | (.unfinished, l) => (.unfinished, l)

end Loom

end AspectAgent
