import AspectAgent.Proofs.AppliedDescriptors
import AspectAgent.Proofs.FewerLayers

/-!
# A transformation without one descriptor

Two transformations of one class are compared, by an agent and by the same agent without one of its
descriptors. Whatever that descriptor does, the registries are the same but for its own entry, and
the hosts are the same but for its own layers.
-/

namespace AspectAgent

section Without

variable (k : DescriptorKey)

/-- The layers of other descriptors than those of a key. -/
def Layer.isOther (l : Layer) : Bool := l.site.descriptor.key ≠ k

/-- The layers of the descriptors of a key. -/
def Layer.isOf (l : Layer) : Bool := l.site.descriptor.key = k

/-- The registry without what it has for the descriptors of a key. -/
def Registry.without (g : Registry) : Registry :=
  { g with entries := g.entries.filter fun e => e.2.1 ≠ k }

namespace Registry

variable {k} {g g' : Registry} {c : Nat} {cls : HostClass}

theorem sites?_without {k' : DescriptorKey} (c : Nat) (hk : k' ≠ k) :
    (g.without k).sites? c k' = g.sites? c k' := by
  unfold sites? without
  rw [List.find?_filter]
  have hother : (fun e : Nat × DescriptorKey × List Site =>
      decide (decide (e.2.1 ≠ k) = true ∧ (e.1 == c && decide (e.2.1 = k')) = true)) =
        fun e => e.1 == c && decide (e.2.1 = k') := by
    funext e
    rw [Bool.eq_iff_iff]
    by_cases he : e.2.1 = k'
    · simp [he, hk]
    · simp [he]
  rw [hother]

theorem sites?_eq_of_without (h : g.without k = g'.without k) (c : Nat) {k' : DescriptorKey}
    (hk : k' ≠ k) : g.sites? c k' = g'.sites? c k' := by
  rw [← sites?_without c hk, h, sites?_without c hk]

theorem fresh_filter (ds : List Descriptor) :
    (g.fresh c ds).filter (fun d => d.key ≠ k) = g.fresh c (ds.filter fun d => d.key ≠ k) := by
  induction ds with
  | nil => rfl
  | cons d ds ih =>
    by_cases hd : d.key = k
    · rw [List.filter_cons_of_neg (by simpa using hd), ← ih, fresh]
      split
      · rfl
      · rw [List.filter_cons_of_neg (by simpa using hd), List.filter_filter]
        refine List.filter_congr fun e _ => ?_
        simp [hd]
    · rw [List.filter_cons_of_pos (by simpa using hd), fresh, fresh]
      split
      · exact ih
      · rw [List.filter_cons_of_pos (by simpa using hd), List.filter_comm, ih]

theorem without_wovenInto (ds : List Descriptor) : (g.wovenInto c cls ds).without k =
    (g.wovenInto c cls (ds.filter fun d => d.key ≠ k)).without k := by
  unfold without wovenInto
  dsimp only
  rw [← fresh_filter, List.filter_append, List.filter_append, List.filter_map, List.filter_map]
  congr 3
  rw [List.filter_filter]
  exact List.filter_congr fun d _ => by simp

/-- What comes of the other descriptors. -/
theorem answers_filter (h : ∀ k', k' ≠ k → g.sites? c k' = g'.sites? c k') (ds : List Descriptor) :
    (g.answers c cls ds).filter (fun e => e.1.key ≠ k) =
      g'.answers c cls (ds.filter fun d => d.key ≠ k) := by
  induction ds generalizing g g' with
  | nil => rfl
  | cons d ds ih =>
    by_cases hd : d.key = k
    · -- what is remembered for this key makes no difference to the others
      rw [List.filter_cons_of_neg (by simpa using hd), answers]
      split
      · rw [List.filter_cons_of_neg (by simpa using hd)]
        exact ih h
      · rw [List.filter_cons_of_neg (by simpa using hd)]
        refine ih fun k' hk' => ?_
        rw [sites?_remember_of_ne fun heq => hk' (heq.trans hd)]
        exact h k' hk'
    · rw [List.filter_cons_of_pos (by simpa using hd), answers, answers, ← h d.key hd]
      split
      · rw [List.filter_cons_of_pos (by simpa using hd), ih h]
      · rw [List.filter_cons_of_pos (by simpa using hd)]
        refine congrArg _ (ih fun k' hk' => ?_)
        rw [sites?_remember, sites?_remember, h k' hk']

end Registry

/-- The new layers of some descriptors, told by their keys. -/
theorem filter_newLayers (q : DescriptorKey → Bool) (guard c : Nat) (cls : HostClass) (g : Registry)
    (ds : List Descriptor) :
    (Loom.newLayers guard c cls g ds).filter (fun l => q l.site.descriptor.key) =
      (((g.fresh c ds).filter fun d => q d.key).flatMap fun d => d.sitesOn cls).map
        fun s => ⟨s, guard⟩ := by
  have hsites : ∀ es : List Descriptor,
      (es.flatMap fun d => d.sitesOn cls).filter (fun s => q s.descriptor.key) =
        (es.filter fun d => q d.key).flatMap fun d => d.sitesOn cls := by
    intro es
    induction es with
    | nil => rfl
    | cons d es ih =>
      rw [List.flatMap_cons, List.filter_append, ih]
      by_cases hd : q d.key = true
      · have hall : (d.sitesOn cls).filter (fun s => q s.descriptor.key) = d.sitesOn cls := by
          refine List.filter_eq_self.mpr fun s hs => ?_
          rw [Descriptor.descriptor_of_mem_sitesOn hs, hd]
        rw [hall, List.filter_cons_of_pos (by exact hd), List.flatMap_cons]
      · have hnone : (d.sitesOn cls).filter (fun s => q s.descriptor.key) = [] := by
          refine List.filter_eq_nil_iff.mpr fun s hs => ?_
          rw [Descriptor.descriptor_of_mem_sitesOn hs]
          exact hd
        rw [hnone, List.nil_append, List.filter_cons_of_neg (by exact hd)]
  unfold Loom.newLayers
  rw [List.filter_map, ← hsites]
  rfl

/-- The new layers of the other descriptors are those that there are without the descriptor. -/
theorem filter_isOther_newLayers (guard c : Nat) (cls : HostClass) (g : Registry)
    (ds : List Descriptor) :
    (Loom.newLayers guard c cls g ds).filter (Layer.isOther k) =
      Loom.newLayers guard c cls g (ds.filter fun d => d.key ≠ k) := by
  have hfilter := filter_newLayers (fun k' => decide (k' ≠ k)) guard c cls g ds
  rw [Registry.fresh_filter] at hfilter
  exact hfilter

end Without

namespace Agent

variable {a : Agent} {l : Loom} {c : Nat} {cls : HostClass}

/-- The agent with other descriptors. -/
def having (a : Agent) (ds : List Descriptor) : Agent := { a with descriptors := ds }

theorem applied_without {ds₁ ds₂ : List Descriptor} {d : Descriptor}
    (ha : a.descriptors = ds₁ ++ d :: ds₂) (cls : HostClass) :
    (a.applied cls).filter (fun e => e.key ≠ d.key) =
      ((a.having (ds₁ ++ ds₂)).applied cls).filter fun e => e.key ≠ d.key := by
  unfold applied having
  dsimp only
  split
  · rw [List.filter_comm, List.filter_comm (l := ds₁ ++ ds₂), ha]
    simp
  · rfl

theorem having_failsOrdinarily {ds₁ ds₂ : List Descriptor} {d : Descriptor}
    (ha : a.descriptors = ds₁ ++ d :: ds₂) (hds : ∀ d ∈ a.descriptors, d.FailsOrdinarilyOn cls) :
    ∀ e ∈ (a.having (ds₁ ++ ds₂)).descriptors, e.FailsOrdinarilyOn cls := by
  intro e he
  refine hds e (ha ▸ ?_)
  rcases List.mem_append.mp he with he | he
  · exact List.mem_append_left _ he
  · exact List.mem_append_right _ (List.mem_cons_of_mem d he)

theorem having_hashed {ds₁ ds₂ : List Descriptor} {d : Descriptor}
    (ha : a.descriptors = ds₁ ++ d :: ds₂) (hhashed : ∀ d ∈ a.applied cls, d.unhashed = none) :
    ∀ e ∈ (a.having (ds₁ ++ ds₂)).applied cls, e.unhashed = none := by
  have hsublist : ((a.having (ds₁ ++ ds₂)).applied cls).Sublist (a.applied cls) := by
    unfold applied having
    dsimp only
    split
    · rw [ha]
      exact ((List.sublist_cons_self d ds₂).append_left ds₁).filter _
    · exact .refl []
  exact fun e he => hhashed e (hsublist.subset he)

/-- Whatever one descriptor does, a transformation gives the others what it gives them without it.
-/
theorem transform_isolated (hc : l.host.class? c = some cls)
    (hds : ∀ d ∈ a.descriptors, d.FailsOrdinarilyOn cls)
    (hhashed : ∀ d ∈ a.applied cls, d.unhashed = none) (hl : LogsSafely l)
    {ds₁ ds₂ : List Descriptor} {d : Descriptor} (ha : a.descriptors = ds₁ ++ d :: ds₂) :
    let b := a.having (ds₁ ++ ds₂)
    let after := (a.transform c l).2
    let after' := (b.transform c l).2
    let answers := l.registry.answers c cls (a.applied cls)
    let answers' := l.registry.answers c cls (b.applied cls)
    ((a.transform c l).1 = .returned (answers.flatMap Prod.snd) ∧
      (b.transform c l).1 = .returned (answers'.flatMap Prod.snd) ∧
      answers.filter (fun e => e.1.key ≠ d.key) = answers'.filter fun e => e.1.key ≠ d.key) ∧
      after.registry.without d.key = after'.registry.without d.key ∧
      after.host.keeping (Layer.isOther d.key) = after'.host.keeping (Layer.isOther d.key) := by
  intro b after after' answers answers'
  obtain ⟨r, hrun, -⟩ := transform_settled hc hds hhashed hl
  obtain ⟨r', hrun', -⟩ := transform_settled (a := b) hc (having_failsOrdinarily ha hds)
    (having_hashed ha hhashed) hl
  have hsame := applied_without ha cls
  refine ⟨⟨congrArg Prod.fst hrun, congrArg Prod.fst hrun', ?_⟩, ?_, ?_⟩
  · show (l.registry.answers c cls _).filter _ = (l.registry.answers c cls _).filter _
    rw [Registry.answers_filter (fun _ _ => rfl), hsame,
      ← Registry.answers_filter (g := l.registry) fun _ _ => rfl]
  · show (a.transform c l).2.registry.without d.key = (b.transform c l).2.registry.without d.key
    rw [hrun, hrun']
    show (l.registry.wovenInto c cls _).without d.key = (l.registry.wovenInto c cls _).without d.key
    rw [Registry.without_wovenInto, hsame, ← Registry.without_wovenInto]
  · show (a.transform c l).2.host.keeping _ = (b.transform c l).2.host.keeping _
    rw [hrun, hrun']
    show (l.host.modify c _).keeping _ = (l.host.modify c _).keeping _
    rw [Host.keeping_modify, Host.keeping_modify, filter_isOther_newLayers,
      filter_isOther_newLayers, hsame]
    rfl

/-- A descriptor whose type matcher does not match, or fails, makes no difference at all. -/
theorem transform_unaffected (hc : l.host.class? c = some cls)
    (hds : ∀ d ∈ a.descriptors, d.FailsOrdinarilyOn cls)
    (hhashed : ∀ d ∈ a.applied cls, d.unhashed = none) (hl : LogsSafely l)
    {ds₁ ds₂ : List Descriptor} {d : Descriptor} (ha : a.descriptors = ds₁ ++ d :: ds₂)
    (hd : d.acceptsType cls = false) :
    let b := a.having (ds₁ ++ ds₂)
    (a.transform c l).1 = (b.transform c l).1 ∧
      (a.transform c l).2.host = (b.transform c l).2.host ∧
      (a.transform c l).2.registry = (b.transform c l).2.registry := by
  intro b
  have happlied : a.applied cls = b.applied cls := by
    unfold applied
    rw [ha]
    simp [b, having, hd]
  obtain ⟨r, hrun, -⟩ := transform_settled hc hds hhashed hl
  obtain ⟨r', hrun', -⟩ := transform_settled (a := b) hc (having_failsOrdinarily ha hds)
    (having_hashed ha hhashed) hl
  rw [hrun, hrun', happlied]
  exact ⟨rfl, rfl, rfl⟩

end Agent

end AspectAgent
