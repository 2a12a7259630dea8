import AspectAgent.Proofs.WithoutDescriptor

/-!
# A transformation without some methods

A transformation of a class is compared with one of the class without some of its methods. A
descriptor that does not select them gets the same sites and the same layers around the others.
-/

namespace AspectAgent

namespace HostClass

variable (p : MethodDescription → Bool) (cls : HostClass)

/-- The class without the methods that a test tells. -/
def withoutMethods : HostClass :=
  { cls with members := cls.members.filter fun m => !(m.describe?.any p) }

theorem declaredMethods_withoutMethods :
    (cls.withoutMethods p).declaredMethods = cls.declaredMethods.filter fun m => !p m := by
  unfold declaredMethods withoutMethods
  rw [List.filterMap_filter, List.filter_filterMap]
  refine List.filterMap_congr fun m _ => ?_
  cases m.describe? with
  | none => rfl
  | some x => cases p x <;> rfl

theorem withoutMethods_addLayers (layers : List Layer) :
    (cls.addLayers layers).withoutMethods p = (cls.withoutMethods p).addLayers layers := by
  unfold withoutMethods addLayers
  rw [List.filter_map]
  rfl

end HostClass

namespace Registry

variable {g : Registry} {c : Nat} {cls : HostClass}

/-- What is to be woven is woven. -/
theorem sites?_wovenInto {d : Descriptor} {ds : List Descriptor} (h : d ∈ g.fresh c ds) :
    (g.wovenInto c cls ds).sites? c d.key = some (d.sitesOn cls) := by
  induction ds generalizing g with
  | nil => cases h
  | cons e ds ih =>
    cases he : g.sites? c e.key with
    | some _ =>
      rw [fresh, he] at h
      rw [wovenInto_of_sites he]
      exact ih h
    | none =>
      rw [fresh, he] at h
      rw [wovenInto_of_new he]
      rcases List.mem_cons.mp h with rfl | h
      · exact sites?_wovenInto_of_known (sites?_remember_self he _) ds
      · exact ih (by rw [fresh_remember he]; exact h)

theorem eq_of_mem_fresh {d e : Descriptor} {ds : List Descriptor} (hd : d ∈ g.fresh c ds)
    (he : e ∈ g.fresh c ds) (hkey : d.key = e.key) : d = e := by
  induction ds with
  | nil => cases hd
  | cons x ds ih =>
    rw [fresh] at hd he
    split at hd
    · rename_i hx
      rw [if_pos hx] at he
      exact ih hd he
    · rename_i hx
      rw [if_neg hx] at he
      rcases List.mem_cons.mp hd with rfl | hd
      · rcases List.mem_cons.mp he with rfl | he
        · rfl
        · simp [hkey] at he
      · rcases List.mem_cons.mp he with rfl | he
        · simp [hkey] at hd
        · exact ih (List.mem_of_mem_filter hd) (List.mem_of_mem_filter he)

end Registry

namespace Descriptor

variable {d : Descriptor} {cls : HostClass} {p : MethodDescription → Bool}

theorem sitesOn_withoutMethods
    (h : ∀ m ∈ cls.declaredMethods, p m = true → d.acceptsMethod m = false) :
    d.sitesOn (cls.withoutMethods p) = d.sitesOn cls := by
  have hmethods : d.methodsOn (cls.withoutMethods p) = d.methodsOn cls := by
    unfold methodsOn
    rw [HostClass.declaredMethods_withoutMethods, List.filter_filter]
    refine List.filter_congr fun m hm => ?_
    cases hp : p m with
    | false => simp
    | true => simp [h m hm hp]
  unfold sitesOn
  rw [hmethods]
  rfl

theorem FailsOrdinarilyOn.withoutMethods (h : d.FailsOrdinarilyOn cls) :
    d.FailsOrdinarilyOn (cls.withoutMethods p) where
  type := h.type
  method := by
    rw [HostClass.declaredMethods_withoutMethods]
    exact fun m hm => h.method m (List.mem_of_mem_filter hm)

end Descriptor

namespace Agent

variable {a : Agent} {l : Loom} {c : Nat} {cls : HostClass}

/-- Of a descriptor whose matcher fails on some methods, the other methods get what they get when
the class does not declare these. -/
theorem transform_without_methods (hc : l.host.class? c = some cls)
    (hds : ∀ d ∈ a.descriptors, d.FailsOrdinarilyOn cls)
    (hhashed : ∀ d ∈ a.applied cls, d.unhashed = none) (hl : LogsSafely l) {d : Descriptor}
    (hd : d ∈ l.registry.fresh c (a.applied cls)) {p : MethodDescription → Bool}
    (hp : ∀ m ∈ cls.declaredMethods, p m = true → d.acceptsMethod m = false) :
    let after := (a.transform c l).2
    let after' := (a.transform c { l with host := l.host.modify c (HostClass.withoutMethods p) }).2
    after.registry.sites? c d.key = some (d.sitesOn cls) ∧
      after'.registry.sites? c d.key = some (d.sitesOn cls) ∧
      (after.host.modify c (HostClass.withoutMethods p)).keeping (Layer.isOf d.key) =
        after'.host.keeping (Layer.isOf d.key) := by
  intro after after'
  let bare := cls.withoutMethods p
  let l' : Loom := { l with host := l.host.modify c (HostClass.withoutMethods p) }
  have hc' : l'.host.class? c = some bare := by
    rw [Host.class?_modify, if_pos rfl, hc, Option.map_some]
  obtain ⟨r, hrun, -⟩ := transform_settled hc hds hhashed hl
  obtain ⟨r', hrun', -⟩ := transform_settled (l := l') hc'
    (fun e he => (hds e he).withoutMethods) hhashed hl
  have hsites : d.sitesOn bare = d.sitesOn cls := Descriptor.sitesOn_withoutMethods hp
  have happlied : a.applied bare = a.applied cls := rfl
  have hafter : after = _ := congrArg Prod.snd hrun
  have hafter' : after' = _ := congrArg Prod.snd hrun'
  rw [happlied] at hafter'
  refine ⟨?_, ?_, ?_⟩
  · rw [hafter]
    exact Registry.sites?_wovenInto hd
  · rw [hafter', ← hsites]
    exact Registry.sites?_wovenInto hd
  · -- among the descriptors to be woven none but this one has its key
    let own := (l.registry.fresh c (a.applied cls)).filter fun e => decide (e.key = d.key)
    have hown : own.flatMap (fun e => e.sitesOn bare) = own.flatMap fun e => e.sitesOn cls := by
      refine List.flatMap_congr fun e he => ?_
      obtain ⟨he, hkey⟩ := List.mem_filter.mp he
      rw [Registry.eq_of_mem_fresh he hd (by simpa using hkey), hsites]
    have hlayers : (Loom.newLayers a.guard c bare l.registry (a.applied cls)).filter
          (Layer.isOf d.key) =
        (Loom.newLayers a.guard c cls l.registry (a.applied cls)).filter (Layer.isOf d.key) := by
      have hfilter := fun cls' => filter_newLayers (fun k => decide (k = d.key)) a.guard c cls'
        l.registry (a.applied cls)
      exact (hfilter bare).trans ((congrArg _ hown).trans (hfilter cls).symm)
    rw [hafter, hafter']
    show ((l.host.modify c _).modify c _).keeping _ = ((l.host.modify c _).modify c _).keeping _
    have hcomm : ∀ layers, (l.host.modify c (HostClass.addLayers layers)).modify c
        (HostClass.withoutMethods p) =
          (l.host.modify c (HostClass.withoutMethods p)).modify c (HostClass.addLayers layers) := by
      intro layers
      rw [Host.modify_modify, Host.modify_modify]
      exact congrArg (l.host.modify c)
        (funext fun x => HostClass.withoutMethods_addLayers p x layers)
    rw [hcomm, Host.keeping_modify, Host.keeping_modify, hlayers]

end Agent

end AspectAgent
