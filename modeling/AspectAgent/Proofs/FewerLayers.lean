import AspectAgent.Host.Lookup
import AspectAgent.Proofs.Members
import Mathlib.Data.List.Basic

/-!
# Hosts with fewer layers

A host can be stripped of some of its layers, or of all. Nothing that looking up does depends on
layers: a look-up on the stripped host finds what it finds on the full one, with fewer layers around
it.
-/

namespace AspectAgent

variable (p : Layer → Bool)

/-- The member with those layers that pass a test. -/
def Member.keeping (m : Member) : Member := { m with layers := m.layers.filter p }

theorem Member.keeping_true : Member.keeping (fun _ => true) = id := by
  funext m
  rw [keeping, List.filter_eq_self.mpr fun _ _ => rfl]
  rfl

namespace HostClass

/-- The class with those layers that pass a test. -/
def keeping (c : HostClass) : HostClass := { c with members := c.members.map (Member.keeping p) }

variable (c : HostClass)

theorem member?_keeping (name : String) :
    (c.keeping p).member? name = (c.member? name).map (Member.keeping p) := by
  unfold member? keeping
  rw [List.find?_map]
  rfl

theorem unwoven_eq_keeping : unwoven = keeping fun _ => false := by
  funext c
  simp [unwoven, keeping, Member.keeping]

theorem keeping_true : keeping (fun _ => true) = id := by
  funext c
  rw [keeping, Member.keeping_true, List.map_id]
  rfl

theorem keeping_addLayers (layers : List Layer) :
    (c.addLayers layers).keeping p = (c.keeping p).addLayers (layers.filter p) := by
  unfold keeping addLayers
  rw [List.map_map, List.map_map]
  refine congrArg (fun members => { c with members := members })
    (List.map_congr_left fun m _ => ?_)
  simp only [Function.comp_apply, Member.keeping, List.filter_append]
  rw [List.filter_comm]
  rfl

end HostClass

/-- The host with those layers that pass a test. -/
def Host.keeping (h : Host) : Host := { h with classes := h.classes.map (HostClass.keeping p) }

/-- The function with those layers around its member that pass a test. -/
def FoundFunction.keeping (f : FoundFunction) : FoundFunction :=
  { f with owner := f.owner.keeping p, member := f.member.keeping p }

/-- The call with those layers around its method that pass a test. -/
def Target.keeping (t : Target) : Target :=
  { t with owner := t.owner.keeping p, member := t.member.keeping p }

/-- What was found with those layers that pass a test. -/
def Found.keeping : Found → Found
  | .method f => .method (f.keeping p)
  | .property f => .property (f.keeping p)
  | found => found

namespace Host

variable (h : Host)

theorem unwoven_eq_keeping : h.unwoven = h.keeping fun _ => false := by
  unfold unwoven keeping
  rw [HostClass.unwoven_eq_keeping]

theorem keeping_true : h.keeping (fun _ => true) = h := by
  rw [keeping, HostClass.keeping_true, List.map_id]

theorem keeping_modify (c : Nat) (layers : List Layer) :
    (h.modify c (HostClass.addLayers layers)).keeping p =
      (h.keeping p).modify c (HostClass.addLayers (layers.filter p)) := by
  unfold keeping modify
  refine congrArg Host.mk (List.ext_getElem? fun i => ?_)
  simp only [List.getElem?_map, List.getElem?_modify, Option.map_eq_map]
  split
  · rw [Option.map_map, Option.map_map]
    exact congrArg (fun g => (h.classes[i]?).map g)
      (funext fun x => HostClass.keeping_addLayers p x layers)
  · rw [Option.map_id_fun', id, id]

/-- Layers that are put around a class are gone when all are. -/
theorem unwoven_modify (c : Nat) (layers : List Layer) :
    (h.modify c (HostClass.addLayers layers)).unwoven = h.unwoven := by
  have hnone : (layers.filter fun _ => false) = [] := by simp
  rw [unwoven_eq_keeping, unwoven_eq_keeping, keeping_modify, hnone, HostClass.addLayers_nil,
    modify_id]

theorem class?_keeping (c : Nat) :
    (h.keeping p).class? c = (h.class? c).map (HostClass.keeping p) :=
  List.getElem?_map

@[simp] theorem lineage_keeping (c : Nat) : (h.keeping p).lineage c = h.lineage c := by
  rw [lineage, class?_keeping, Option.map_map]
  rfl

@[simp] theorem lineageFor_keeping (subject : Value) :
    (h.keeping p).lineageFor subject = h.lineageFor subject := by
  simp only [lineageFor, lineage_keeping]

@[simp] theorem isInstance_keeping (v : Value) (c : Nat) :
    (h.keeping p).isInstance v c = h.isInstance v c := by
  simp only [isInstance, lineage_keeping]

@[simp] theorem qualnameOf_keeping (v : Value) : (h.keeping p).qualnameOf v = h.qualnameOf v := by
  simp only [qualnameOf, class?_keeping, Option.map_map]
  rfl

theorem find?_keeping (lineage : List Nat) (name : String) :
    (h.keeping p).find? lineage name =
      (h.find? lineage name).map fun e => (e.1.keeping p, e.2.keeping p) := by
  unfold find?
  rw [List.map_findSome?]
  refine congrArg (List.findSome? · lineage) (funext fun a => ?_)
  rw [class?_keeping, Function.comp_apply]
  cases h.class? a with
  | none => rfl
  | some owner =>
    show ((owner.keeping p).member? name).map _ = Option.map _ ((owner.member? name).map _)
    rw [HostClass.member?_keeping, Option.map_map, Option.map_map]
    rfl

@[simp] theorem declares_keeping (subject : Value) (name : String) :
    (h.keeping p).declares subject name = h.declares subject name := by
  unfold declares
  rw [find?_keeping, lineageFor_keeping, Option.isSome_map]

theorem found?_keeping (lineage : List Nat) (subject : Value) (name : String) :
    (h.keeping p).found? lineage subject name =
      (h.found? lineage subject name).map (Found.keeping p) := by
  unfold found?
  rw [find?_keeping, Option.map_map, Option.map_map]
  refine congrArg (Option.map · _) (funext fun e => ?_)
  obtain ⟨owner, name, content, layers⟩ := e
  cases content with
  | method kind f => rfl
  | property f => cases subject <;> rfl
  | value v => rfl
  | nested c =>
    show Found.value _ = Found.value _
    rw [class?_keeping, Option.map_map]
    rfl

theorem member?_keeping (subject : Value) (name : String) :
    (h.keeping p).member? subject name = (h.member? subject name).map (Found.keeping p) := by
  unfold member?
  rw [lineageFor_keeping, found?_keeping]

@[simp] theorem idle?_keeping (subject : Value) (name : String) :
    (h.keeping p).idle? subject name = h.idle? subject name := by
  have hprepares : (h.keeping p).preparesAnyhow = h.preparesAnyhow := by
    funext v
    simp only [preparesAnyhow, declares_keeping]
  have hpreparation : (h.keeping p).preparation subject = h.preparation subject := by
    funext a
    unfold preparation
    rw [hprepares]
  simp only [idle?, hpreparation, qualnameOf_keeping]

theorem universal?_keeping (subject : Value) (name : String) :
    (h.keeping p).universal? subject name =
      (h.universal? subject name).map (Found.keeping p) := by
  unfold universal?
  rw [idle?_keeping]
  cases h.idle? subject name with
  | some refused => rfl
  | none =>
    cases subject with
    | instanceOf c => dsimp only; split <;> rfl
    | classOf c => dsimp only; split <;> rfl
    | _ => rfl

end Host

theorem FoundFunction.target_keeping (h : Host) (f : FoundFunction) (a : Arguments) :
    (f.keeping p).target (h.keeping p) a = (f.target h a).keeping p := by
  unfold target FoundFunction.keeping
  dsimp only
  split
  all_goals try rfl
  rw [Host.isInstance_keeping]
  split <;> rfl

end AspectAgent
