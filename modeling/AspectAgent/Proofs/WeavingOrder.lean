import AspectAgent.Proofs.Transforming

/-!
# The order of weaving

What a descriptor selects in a class is told by the names, the signatures and the kinds of the
methods that the class declares, and the layers around a member are none of these. So a weaving
installs and remembers the same sites whatever has been woven into the class before it. Descriptors
that are woven in another order get the same sites; only around each member their layers are nested
in another order.

This holds of weavings that fail as well. One that meets a method that cannot be assigned keeps the
sites before it, and one that fails while the methods are selected has none. It does not hold of
descriptors that cannot be hashed: of these only the one gets its layers that is the first to be
woven into the class.
-/

namespace AspectAgent

open Act

namespace HostClass

variable {cls cls' : HostClass}

/-- Two states of a class that differ in nothing but the order in which layers are nested. -/
structure SameButNesting (cls cls' : HostClass) : Prop where
  unwoven : cls.unwoven = cls'.unwoven
  layers : List.Forall₂ (fun m m' => m.layers.Perm m'.layers) cls.members cls'.members

theorem sameButNesting_addLayers (cls : HostClass) {layers layers' : List Layer}
    (h : layers.Perm layers') :
    (cls.addLayers layers).SameButNesting (cls.addLayers layers') where
  unwoven := by rw [unwoven_addLayers, unwoven_addLayers]
  layers := by
    unfold addLayers
    rw [List.forall₂_map_left_iff, List.forall₂_map_right_iff, List.forall₂_same]
    exact fun m _ => (h.filter _).append_left m.layers

end HostClass

/-- The registry after descriptors have been woven into a class for the first time. -/
def Registry.rememberEach (ch : LogChannel) (c : Nat) (cls : HostClass) (ds : List Descriptor)
    (g : Registry) : Registry :=
  { g with entries := g.entries ++ ds.map fun d => (c, d.key, d.firstSites ch cls) }

namespace Loom

variable {ch : LogChannel} {guard c : Nat} {cls : HostClass} {d : Descriptor} {ds : List Descriptor}
  {l : Loom}

/-- Weaves descriptors into a class one after the other, whether or not a weaving fails. -/
def weaveEach (guard c : Nat) (ds : List Descriptor) (l : Loom) : Loom :=
  ds.foldl (fun l d => (weave guard c d l).2) l

theorem weaveEach_cons (guard c : Nat) (d : Descriptor) (ds : List Descriptor) (l : Loom) :
    l.weaveEach guard c (d :: ds) = (weave guard c d l).2.weaveEach guard c ds := rfl

theorem steps_weaveEach (guard c : Nat) (ds : List Descriptor) (l : Loom) :
    Relation.ReflTransGen Step l (l.weaveEach guard c ds) := by
  induction ds generalizing l with
  | nil => exact .refl
  | cons d ds ih => exact .head (.weave guard c d l) (ih _)

/-- No descriptor changes what the others install. -/
theorem weaveEach_first (guard : Nat) (hkeys : (ds.map Descriptor.key).Nodup)
    (hhashed : ∀ d ∈ ds, d.unhashed = none)
    (hnew : ∀ d ∈ ds, l.registry.sites? c d.key = none) (hc : l.host.class? c = some cls)
    (hl : LogsLike ch l) :
    ∃ r, l.weaveEach guard c ds =
      ⟨l.host.modify c (HostClass.addLayers (ds.flatMap fun d => d.firstLayers ch cls guard)),
        l.registry.rememberEach ch c cls ds, r⟩ := by
  induction ds generalizing l cls with
  | nil =>
    refine ⟨l.run, ?_⟩
    rw [List.flatMap_nil, HostClass.addLayers_nil, Host.modify_id, Registry.rememberEach,
      List.map_nil, List.append_nil]
    rfl
  | cons d ds ih =>
    rw [List.map_cons, List.nodup_cons] at hkeys
    obtain ⟨hd, hrest⟩ := List.forall_mem_cons.mp hnew
    obtain ⟨hdhashed, hhashed⟩ := List.forall_mem_cons.mp hhashed
    have hfound := Registry.lookUp_of_hashed hdhashed l.registry c
    rw [hd] at hfound
    obtain ⟨r, hr, hweave⟩ := weave_first guard hfound hc hl
    rw [Registry.enter_of_hashed hdhashed] at hweave
    -- the class now has the layers of the first descriptor, which the others do not see
    let layers := d.firstLayers ch cls guard
    let woven : Loom := ⟨l.host.modify c (HostClass.addLayers layers),
      l.registry.remember c d.key (d.firstSites ch cls), r⟩
    have hc' : woven.host.class? c = some (cls.addLayers layers) := by
      show (l.host.modify c _).class? c = _
      rw [Host.class?_modify, if_pos rfl, hc, Option.map_some]
    have hnew' : ∀ e ∈ ds, woven.registry.sites? c e.key = none := by
      intro e he
      have hne : d.key ≠ e.key := fun heq => hkeys.1 (heq ▸ List.mem_map_of_mem he)
      show (l.registry.remember c d.key _).sites? c e.key = none
      rw [Registry.sites?_remember_of_ne (Ne.symm hne), hrest e he]
    obtain ⟨r', hall⟩ := ih hkeys.2 hhashed hnew' hc' ⟨hr.handlers, hr.level⟩
    refine ⟨r', ?_⟩
    rw [weaveEach_cons, hweave, hall]
    simp only [Descriptor.firstLayers_addLayers, Registry.rememberEach,
      Descriptor.firstSites_addLayers, woven]
    rw [Host.modify_addLayers, Registry.remember, List.append_assoc]
    rfl

end Loom

namespace Registry

variable {ch : LogChannel} {c : Nat} {cls : HostClass} {d : Descriptor} {ds : List Descriptor}
  {g : Registry}

theorem sites?_rememberEach (hkeys : (ds.map Descriptor.key).Nodup) (hd : d ∈ ds)
    (hnew : g.sites? c d.key = none) :
    (g.rememberEach ch c cls ds).sites? c d.key = some (d.firstSites ch cls) := by
  have hfind : ds.find? (fun e => e.key = d.key) = some d := by
    cases hfound : ds.find? (fun e => e.key = d.key) with
    | none => exact absurd (List.find?_eq_none.mp hfound d hd) (by simp)
    | some e =>
      have hkey : e.key = d.key := by simpa using List.find?_some hfound
      rw [List.inj_on_of_nodup_map hkeys (List.mem_of_find?_eq_some hfound) hd hkey]
  have hold := Option.map_eq_none_iff.mp hnew
  unfold sites? rememberEach
  rw [List.find?_append, hold, Option.none_or, List.find?_map]
  have htest : ((fun e : Nat × DescriptorKey × List Site => e.1 == c && e.2.1 = d.key) ∘
      fun e : Descriptor => (c, e.key, e.firstSites ch cls)) = fun e => decide (e.key = d.key) := by
    funext e
    simp
  rw [htest, hfind]
  rfl

end Registry

/-- A descriptor of advice on all methods of a class. -/
def Descriptor.onAll (id : String) : Descriptor :=
  { Descriptor.onCountdown id .onExit [] with
    methodMatcher := ⟨2, .custom "all" none fun _ => .ok (.bool true)⟩ }

end AspectAgent
