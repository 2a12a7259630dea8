import AspectAgent.Host.Program

/-!
# Members and their layers

Putting a layer around a member puts it outermost around this member and leaves everything else of
the host as it is.
-/

namespace AspectAgent

namespace Member

/-- The member with one more layer, the outermost. -/
def wrap (l : Layer) (m : Member) : Member := { m with layers := m.layers ++ [l] }

theorem name_of_describe? {m : Member} {description : MethodDescription}
    (h : m.describe? = some description) : description.name = m.name := by
  unfold describe? at h
  split at h
  · cases h
    rfl
  · cases h

end Member

namespace HostClass

variable (c : HostClass) (name other : String) (l : Layer)

theorem member?_addLayer : (c.addLayer name l).member? other =
    (c.member? other).map fun m => if m.name = name then m.wrap l else m := by
  have hname : ∀ m : Member,
      (if m.name = name then { m with layers := m.layers ++ [l] } else m).name = m.name := by
    intro m
    split <;> rfl
  unfold member? addLayer
  dsimp only
  rw [List.find?_map]
  simp only [Function.comp_def, hname]
  rfl

theorem name_of_member? {m : Member} (h : c.member? name = some m) : m.name = name := by
  have hname := List.find?_some h
  simpa using hname

/-- Puts layers around the members for which they are, each layer outermost in turn. -/
def addLayers (layers : List Layer) (c : HostClass) : HostClass :=
  { c with
    members := c.members.map fun m =>
      { m with layers := m.layers ++ layers.filter fun l => l.site.method = m.name } }

@[simp] theorem addLayers_nil : addLayers [] = id := by
  funext c
  unfold addLayers
  simp

theorem addLayers_cons (layers : List Layer) :
    c.addLayers (l :: layers) = (c.addLayer l.site.method l).addLayers layers := by
  unfold addLayers addLayer
  rw [List.map_map]
  refine congrArg (fun members => { c with members := members }) (List.map_congr_left fun m _ => ?_)
  by_cases hm : m.name = l.site.method
  · simp [hm]
  · simp [hm, Ne.symm hm]

@[simp] theorem names_addLayers (layers : List Layer) :
    (c.addLayers layers).members.map Member.name = c.members.map Member.name := by
  rw [addLayers, List.map_map]
  rfl

@[simp] theorem declaredMethods_addLayers (layers : List Layer) :
    (c.addLayers layers).declaredMethods = c.declaredMethods := by
  unfold declaredMethods addLayers
  rw [List.filterMap_map]
  rfl

@[simp] theorem unwoven_addLayers (layers : List Layer) :
    (c.addLayers layers).unwoven = c.unwoven := by
  unfold unwoven addLayers
  rw [List.map_map]
  rfl

/-- The sites of a descriptor around the members, in the order of the members. -/
def installed (k : DescriptorKey) (c : HostClass) : List Site :=
  c.members.flatMap fun m => (m.layers.map Layer.site).filter fun s => s.descriptor.key = k

/-- The names of the methods are among those of the members, in the same order. -/
theorem declaredMethods_names :
    (c.declaredMethods.map MethodDescription.name).Sublist (c.members.map Member.name) := by
  unfold declaredMethods
  induction c.members with
  | nil => exact .refl []
  | cons m members ih =>
    cases hm : m.describe? with
    | none =>
      rw [List.filterMap_cons_none hm]
      exact ih.cons m.name
    | some description =>
      rw [List.filterMap_cons_some hm, List.map_cons, List.map_cons, m.name_of_describe? hm]
      exact ih.cons_cons m.name

end HostClass

namespace Host

variable (h : Host) (c d : Nat)

theorem modify_id : h.modify c id = h := by
  unfold modify
  rw [List.modify_id]

theorem class?_modify (g : HostClass → HostClass) :
    (h.modify c g).class? d = if c = d then (h.class? d).map g else h.class? d := by
  unfold modify class?
  dsimp only
  rw [List.getElem?_modify]
  split
  · rfl
  · simp

/-- Layers that are put around a member one after the other lie around it in this order. -/
theorem member?_addLayers {cls : HostClass} {name : String} {m : Member} (layers : List Layer)
    (hcls : h.class? c = some cls) (hm : cls.member? name = some m) :
    ∃ cls', (layers.foldl (fun h l => h.modify c fun x => x.addLayer name l) h).class? c =
        some cls' ∧
      cls'.member? name = some { m with layers := m.layers ++ layers } := by
  induction layers generalizing h cls m with
  | nil => exact ⟨cls, hcls, by simpa using hm⟩
  | cons l layers ih =>
    have hcls' : (h.modify c fun x => x.addLayer name l).class? c = some (cls.addLayer name l) := by
      rw [class?_modify, if_pos rfl, hcls, Option.map_some]
    have hm' : (cls.addLayer name l).member? name = some (m.wrap l) := by
      rw [HostClass.member?_addLayer, hm, Option.map_some, if_pos (cls.name_of_member? name hm)]
    obtain ⟨cls', hclass, hmember⟩ := ih _ hcls' hm'
    refine ⟨cls', hclass, hmember.trans ?_⟩
    simp [Member.wrap]

end Host

/-- A function that counts down by calling itself. -/
def HostFunction.countdown : HostFunction where
  name := "step"
  signature := { parameters := [{ name := "self" }, { name := "n" }] }
  body := .recurse "n"

/-- A method that counts down, with its layers. -/
def Member.countdown (layers : List Layer) : Member where
  name := "step"
  content := .method .onInstance .countdown
  layers := layers

/-- A class with this one method. -/
def HostClass.countdown (layers : List Layer) : HostClass where
  index := 0
  module := "app"
  qualname := "Countdown"
  members := [.countdown layers]
  lineage := [0]

/-- A host with this one class. -/
def Host.countdown (layers : List Layer) : Host := { classes := [.countdown layers] }

/-- A descriptor of scripted advice on the method. -/
def Descriptor.onCountdown (id : String) (phase : Phase) (actions : List AdviceAction) :
    Descriptor where
  typeMatcher := ⟨0, .named "app.Countdown" (some "app")⟩
  methodMatcher := ⟨1, .named "step" none⟩
  advice := .scripted id actions
  phase := phase
  name := id

end AspectAgent
