import AspectAgent.Proofs.AppliedDescriptors

/-!
# How often a report lists a site

What comes of a transformation is the concatenation of what the turns of its descriptors return. So
the sites of a key are listed once for each descriptor with this key, but for a new descriptor whose
weaving fails: this one returns nothing, though what it has installed until then is remembered. A
descriptor that cannot be hashed returns nothing at all, and is not remembered. A list agrees with
the registry on some keys, up to order, just if the sites of each of them are listed once.
-/

namespace AspectAgent

/-- The weaving of a new descriptor into a class returns its sites. -/
def Descriptor.isReported (ch : LogChannel) (d : Descriptor) (cls : HostClass) : Bool :=
  (d.firstAnswer ch cls).isOk

theorem Descriptor.excuse_firstAnswer {ch : LogChannel} {d : Descriptor} {cls : HostClass}
    {r : Failure → LogRecord} {sites : List Site}
    (h : ch.excuse r [] (d.firstAnswer ch cls) = .ok sites) :
    sites = if d.isReported ch cls then d.firstSites ch cls else [] := by
  have hsites := LogChannel.eq_of_excuse h
  unfold isReported
  cases hanswer : d.firstAnswer ch cls with
  | ok found =>
    rw [hanswer] at hsites
    rw [(eq_of_firstAnswer hanswer).2.1]
    exact hsites
  | error f =>
    rw [hanswer] at hsites
    exact hsites

/-! ## The sites of a key -/

theorem filter_key_of_keyed {sites : List Site} {k : DescriptorKey}
    (h : ∀ s ∈ sites, s.descriptor.key = k) (k' : DescriptorKey) :
    (sites.filter fun s => s.descriptor.key = k') = if k = k' then sites else [] := by
  split
  · rename_i hk
    refine List.filter_eq_self.mpr fun s hs => ?_
    simp [h s hs, hk]
  · rename_i hk
    refine List.filter_eq_nil_iff.mpr fun s hs => ?_
    simp [h s hs, hk]

/-- Two lists of sites agree up to order if they do on each key. -/
theorem perm_of_filter_key {xs ys : List Site}
    (h : ∀ k, (xs.filter fun s => s.descriptor.key = k).Perm
      (ys.filter fun s => s.descriptor.key = k)) : xs.Perm ys := by
  classical
  refine List.perm_iff_count.mpr fun s => ?_
  have hcount := (h s.descriptor.key).count_eq s
  rwa [List.count_filter (by simp), List.count_filter (by simp)] at hcount

/-- A list in which the sites of each key are listed a number of times agrees with the sites of some
keys if those numbers are one. -/
theorem perm_filter_keys_iff {xs ys : List Site} {n : DescriptorKey → Nat}
    {keys : List DescriptorKey}
    (hlisted : ∀ k, (xs.filter fun s => s.descriptor.key = k) =
      (List.replicate (n k) (ys.filter fun s => s.descriptor.key = k)).flatten)
    (hothers : ∀ k, k ∉ keys → n k = 0) :
    xs.Perm (ys.filter fun s => s.descriptor.key ∈ keys) ↔
      ∀ k ∈ keys, (ys.filter fun s => s.descriptor.key = k) ≠ [] → n k = 1 := by
  have hkeys : ∀ k, ((ys.filter fun s => s.descriptor.key ∈ keys).filter
      fun s => s.descriptor.key = k) =
        if k ∈ keys then ys.filter fun s => s.descriptor.key = k else [] := by
    intro k
    rw [List.filter_filter]
    split
    · rename_i hk
      refine List.filter_congr fun s _ => ?_
      by_cases hs : s.descriptor.key = k <;> simp [hs, hk]
    · rename_i hk
      refine List.filter_eq_nil_iff.mpr fun s _ => ?_
      by_cases hs : s.descriptor.key = k <;> simp [hs, hk]
  constructor
  · intro hperm k hk hsome
    have hlength := (hperm.filter fun s => s.descriptor.key = k).length_eq
    rw [hlisted, hkeys, if_pos hk, List.length_flatten] at hlength
    simp only [List.map_replicate, List.sum_replicate_nat] at hlength
    have hpositive : 0 < (ys.filter fun s => s.descriptor.key = k).length :=
      List.length_pos_iff.mpr hsome
    exact Nat.eq_of_mul_eq_mul_right hpositive (hlength.trans (Nat.one_mul _).symm)
  · intro honce
    refine perm_of_filter_key fun k => ?_
    rw [hlisted, hkeys]
    split
    · rename_i hk
      by_cases hnone : (ys.filter fun s => s.descriptor.key = k) = []
      · simp [hnone]
      · simp [honce k hk hnone]
    · rename_i hk
      simp [hothers k hk]

/-! ## What the registry has under its keys -/

namespace Registry

variable {g : Registry} {c : Nat} {cls : HostClass} {k : DescriptorKey} {d : Descriptor}
  {sites : List Site}

theorem key_of_mem_sitesOn {site : Site} (h : site ∈ d.sitesOn cls) :
    site.descriptor.key = d.key := by
  rw [Descriptor.descriptor_of_mem_sitesOn h]

theorem Keyed.key_of_sites? (h : g.Keyed c) (hk : g.sites? c k = some sites) {site : Site}
    (hs : site ∈ sites) : site.descriptor.key = k := by
  rw [← h.filter_sitesOf hk] at hs
  simpa using List.of_mem_filter hs

theorem Keyed.remember_any {c' : Nat} (h : g.Keyed c') (hk : g.sites? c k = none)
    (hkeyed : ∀ site ∈ sites, site.descriptor.key = k) : (g.remember c k sites).Keyed c' := by
  by_cases hc : c = c'
  · subst hc
    exact h.remember hk hkeyed
  · exact h.remember_other hc

theorem key_of_mem_firstSites {ch : LogChannel} {site : Site} (h : site ∈ d.firstSites ch cls) :
    site.descriptor.key = d.key :=
  key_of_mem_sitesOn (d.firstSites_subset ch cls h)

/-! ## What a turn comes to -/

variable {ch : LogChannel} {ds : List Descriptor}

/-- The registry after a turn, if the turn returns something. -/
theorem turn_cases (h : (g.turn ch c cls d).answer = .ok sites) :
    (d.unhashed ≠ none ∧ sites = [] ∧ (g.turn ch c cls d).registry.entries = g.entries) ∨
    (d.unhashed = none ∧ g.sites? c d.key = some sites ∧ (g.turn ch c cls d).registry = g) ∨
    (d.unhashed = none ∧ g.sites? c d.key = none ∧
      (sites = if d.isReported ch cls then d.firstSites ch cls else []) ∧
      (g.turn ch c cls d).registry = g.remember c d.key (d.firstSites ch cls)) := by
  by_cases hhashed : d.unhashed = none
  · have hfound := lookUp_of_hashed hhashed g c
    cases hk : g.sites? c d.key with
    | some found =>
      rw [hk] at hfound
      rw [turn_of_sites hfound] at h ⊢
      cases h
      exact .inr (.inl ⟨hhashed, rfl, rfl⟩)
    | none =>
      rw [hk] at hfound
      rw [turn_of_new hfound] at h ⊢
      rw [enter_of_hashed hhashed]
      exact .inr (.inr ⟨hhashed, rfl, Descriptor.excuse_firstAnswer h, rfl⟩)
  · obtain ⟨hanswer, hentries⟩ := turn_of_unhashed ch g c cls hhashed
    rw [hanswer] at h
    refine .inl ⟨hhashed, (Descriptor.excuse_firstAnswer h).trans ?_, hentries⟩
    have hunreported : d.isReported ch cls = false := by
      cases hfirst : d.firstAnswer ch cls with
      | ok found => exact absurd (Descriptor.eq_of_firstAnswer hfirst).1 hhashed
      | error f => rw [Descriptor.isReported, hfirst]; rfl
    rw [hunreported]
    rfl

/-- Turns keep what the registry has. -/
theorem turns_keptBy (g : Registry) (ds : List Descriptor) :
    g.KeptBy (g.turns ch c cls ds).registry := by
  have hturn : ∀ (g : Registry) (d : Descriptor), g.KeptBy (g.turn ch c cls d).registry := by
    intro g d
    unfold turn weaving
    split
    · exact .refl g
    · exact .refl g
    · exact .enter g c d _
  induction ds generalizing g with
  | nil => exact .refl g
  | cons d ds ih =>
    cases hanswer : (g.turn ch c cls d).answer with
    | error f =>
      rw [turns_cons_of_error hanswer]
      exact hturn g d
    | ok sites =>
      rw [turns_cons_of_ok hanswer]
      exact (hturn g d).trans (ih _)

theorem Keyed.congr {g' : Registry} {c' : Nat} (h : g.Keyed c')
    (hentries : g'.entries = g.entries) : g'.Keyed c' := by
  constructor
  · rw [hentries]
    exact h.keyed
  · rw [hentries]
    exact h.once

/-- What a first weaving enters keeps the registry keyed. -/
theorem Keyed.enter {c' : Nat} (h : g.Keyed c') (hk : g.lookUp c d = .ok none) :
    (g.enter c d (d.firstSites ch cls)).Keyed c' := by
  cases hf : d.unhashable? with
  | none =>
    have hhashed := Descriptor.unhashable?_eq_none.mp hf
    rw [lookUp_of_hashed hhashed] at hk
    rw [enter_of_hashed hhashed]
    exact h.remember_any (Except.ok.inj hk) fun _ => key_of_mem_firstSites
  | some f =>
    rw [enter_of_unhashed hf]
    exact h.congr rfl

theorem Keyed.turn {c' : Nat} (h : g.Keyed c') (d : Descriptor) :
    (g.turn ch c cls d).registry.Keyed c' := by
  unfold Registry.turn weaving
  cases hk : g.lookUp c d with
  | error f => exact h
  | ok found =>
    cases found with
    | some sites => exact h
    | none => exact h.enter hk

theorem Keyed.turns {c' : Nat} (h : g.Keyed c') (ds : List Descriptor) :
    (g.turns ch c cls ds).registry.Keyed c' := by
  induction ds generalizing g with
  | nil => exact h
  | cons d ds ih =>
    cases hanswer : (g.turn ch c cls d).answer with
    | error f =>
      rw [turns_cons_of_error hanswer]
      exact h.turn d
    | ok sites =>
      rw [turns_cons_of_ok hanswer]
      exact ih (h.turn d)

/-- The registry gets what is installed of descriptors that can be hashed. -/
theorem sitesOf_turns (g : Registry) (ds : List Descriptor) :
    (g.turns ch c cls ds).registry.sitesOf c = g.sitesOf c ++
      (g.turns ch c cls ds).installed.filter fun s => s.descriptor.isHashed := by
  have hturn : ∀ (g : Registry) (d : Descriptor), (g.turn ch c cls d).registry.sitesOf c =
      g.sitesOf c ++
        (g.turn ch c cls d).installed.filter fun s => s.descriptor.isHashed := by
    intro g d
    unfold turn weaving
    split
    · exact (List.append_nil _).symm
    · exact (List.append_nil _).symm
    · have hown : ∀ s ∈ d.firstSites ch cls, s.descriptor = d := fun s hs =>
        Descriptor.descriptor_of_mem_sitesOn (d.firstSites_subset ch cls hs)
      dsimp only
      cases hf : d.unhashable? with
      | none =>
        have hhashed := Descriptor.unhashable?_eq_none.mp hf
        rw [enter_of_hashed hhashed, sitesOf_remember, if_pos rfl,
          List.filter_eq_self.mpr fun s hs =>
            Descriptor.isHashed_iff.mpr (by rw [hown s hs, hhashed])]
      | some f =>
        have hunhashed : ∀ s ∈ d.firstSites ch cls, ¬s.descriptor.isHashed = true := by
          intro s hs hnone
          rw [hown s hs, Descriptor.isHashed_iff] at hnone
          rw [Descriptor.unhashable?_of_hashed hnone] at hf
          cases hf
        rw [enter_of_unhashed hf, List.filter_eq_nil_iff.mpr hunhashed, List.append_nil]
        rfl
  induction ds generalizing g with
  | nil => exact (List.append_nil _).symm
  | cons d ds ih =>
    cases hanswer : (g.turn ch c cls d).answer with
    | error f =>
      rw [turns_cons_of_error hanswer]
      exact hturn g d
    | ok sites =>
      rw [turns_cons_of_ok hanswer]
      dsimp only
      rw [ih, hturn, List.filter_append, List.append_assoc]

theorem sites?_of_mem_fresh {ds : List Descriptor} (hd : d ∈ g.fresh c ds) :
    g.sites? c d.key = none := by
  induction ds with
  | nil => cases hd
  | cons e ds ih =>
    rw [fresh] at hd
    split at hd
    · exact ih hd
    · rename_i hnone
      rcases List.mem_cons.mp hd with rfl | hd
      · exact Option.not_isSome_iff_eq_none.mp hnone
      · exact ih (List.mem_of_mem_filter hd)

/-! ## How often the sites of a key are listed -/

/-- How often the sites of a key are listed among what comes of weaving some descriptors into a
class: once for each of them that has the key and can be hashed, but for a new one whose weaving
fails. -/
def listings (ch : LogChannel) (g : Registry) (c : Nat) (cls : HostClass) (ds : List Descriptor)
    (k : DescriptorKey) : Nat :=
  let hashed := ds.filter Descriptor.isHashed
  (hashed.countP fun d => d.key = k) -
    (g.fresh c hashed).countP fun d => d.key = k && !d.isReported ch cls

/-- Nothing of a key is new that the registry has. -/
theorem countP_fresh_of_sites (hk : g.sites? c k = some sites) (q : Descriptor → Bool)
    (ds : List Descriptor) : ((g.fresh c ds).countP fun d => d.key = k && q d) = 0 := by
  refine List.countP_eq_zero.mpr fun d hd => ?_
  have hne : d.key ≠ k := by
    rintro rfl
    rw [sites?_of_mem_fresh hd] at hk
    cases hk
  simp [hne]

theorem listings_of_unhashed {g' : Registry} (hd : d.unhashed ≠ none)
    (hentries : g'.entries = g.entries) (ds : List Descriptor) (k : DescriptorKey) :
    g.listings ch c cls (d :: ds) k = g'.listings ch c cls ds k := by
  have hsome : ¬d.isHashed = true := fun h => hd (Descriptor.isHashed_iff.mp h)
  have hfresh : ∀ ds, g'.fresh c ds = g.fresh c ds :=
    fresh_congr fun k => by rw [sites?, hentries, sites?]
  rw [listings, listings, List.filter_cons_of_neg hsome, hfresh]

theorem listings_of_sites (hhashed : d.unhashed = none) (hd : g.sites? c d.key = some sites)
    (ds : List Descriptor) (k : DescriptorKey) :
    g.listings ch c cls (d :: ds) k =
      g.listings ch c cls ds k + if d.key = k then 1 else 0 := by
  have hfresh : ∀ ds, g.fresh c (d :: ds) = g.fresh c ds := by
    intro ds
    rw [fresh, hd]
    rfl
  rw [listings, listings, List.filter_cons_of_pos (Descriptor.isHashed_iff.mpr hhashed), hfresh,
    List.countP_cons]
  by_cases hk : d.key = k
  · subst hk
    rw [countP_fresh_of_sites hd]
    simp
  · simp [hk]

theorem listings_of_new (hhashed : d.unhashed = none) (hd : g.sites? c d.key = none)
    (ds : List Descriptor) (k : DescriptorKey) :
    g.listings ch c cls (d :: ds) k =
      (g.remember c d.key (d.firstSites ch cls)).listings ch c cls ds k +
        if d.key = k ∧ d.isReported ch cls = true then 1 else 0 := by
  rw [listings, listings, List.filter_cons_of_pos (Descriptor.isHashed_iff.mpr hhashed),
    fresh_of_new hd (d.firstSites ch cls), List.countP_cons, List.countP_cons]
  by_cases hk : d.key = k
  · subst hk
    rw [countP_fresh_of_sites (sites?_remember_self hd _)]
    cases d.isReported ch cls <;> simp
  · simp [hk]

/-- Of what comes of weaving descriptors into a class, the part of a key is what the registry has
under the key thereafter, listed a number of times. -/
theorem filter_turns (h : g.Keyed c) {found : List Site}
    (hfound : (g.turns ch c cls ds).answer = .ok found) (k : DescriptorKey) :
    (found.filter fun s => s.descriptor.key = k) =
      (List.replicate (g.listings ch c cls ds k)
        (((g.turns ch c cls ds).registry.sitesOf c).filter fun s => s.descriptor.key = k)).flatten
        := by
  induction ds generalizing g found with
  | nil =>
    cases hfound
    simp [listings]
  | cons d ds ih =>
    cases hanswer : (g.turn ch c cls d).answer with
    | error f =>
      rw [turns_cons_of_error hanswer] at hfound
      cases hfound
    | ok sites =>
      rw [turns_cons_of_ok hanswer] at hfound ⊢
      dsimp only at hfound ⊢
      generalize hrest : (g.turn ch c cls d).registry.turns ch c cls ds = rest at hfound ⊢
      obtain ⟨answer, installed, after⟩ := rest
      cases answer with
      | error f => cases hfound
      | ok others =>
        cases hfound
        have hothers := ih (h.turn d) (congrArg Weaving.answer hrest)
        have hkeyed : ((g.turn ch c cls d).registry.turns ch c cls ds).registry.Keyed c :=
          (h.turn d).turns ds
        have hkept : (g.turn ch c cls d).registry.KeptBy
            ((g.turn ch c cls d).registry.turns ch c cls ds).registry := turns_keptBy _ ds
        rw [hrest] at hkeyed hkept
        rw [hrest] at hothers
        rw [List.filter_append, hothers]
        rcases turn_cases hanswer with
          ⟨hunhashed, rfl, hentries⟩ | ⟨hhashed, hd, hsame⟩ | ⟨hhashed, hd, rfl, hregistry⟩
        · rw [listings_of_unhashed hunhashed hentries]
          rfl
        · rw [hsame] at hkept
          rw [filter_key_of_keyed fun _ => h.key_of_sites? hd, listings_of_sites hhashed hd, hsame]
          by_cases hk : d.key = k
          · subst hk
            have hsites := hkeyed.filter_sitesOf (hkept.sites? hd)
            simp [hsites, List.replicate_succ]
          · simp [hk]
        · have hanswered : ∀ s ∈ (if d.isReported ch cls then d.firstSites ch cls else []),
              s.descriptor.key = d.key := by
            intro s hs
            split at hs
            · exact key_of_mem_firstSites hs
            · cases hs
          rw [hregistry] at hkept
          rw [filter_key_of_keyed hanswered, listings_of_new hhashed hd, hregistry]
          by_cases hk : d.key = k
          · subst hk
            have hsites := hkeyed.filter_sitesOf (hkept.sites? (sites?_remember_self hd _))
            cases d.isReported ch cls <;> simp [hsites, List.replicate_succ]
          · simp [hk]

/-- If no two descriptors have one key, all can be hashed and no weaving fails, the sites of each
are listed once. -/
theorem listings_eq_one (hkeys : (ds.map Descriptor.key).Nodup)
    (hhashed : ∀ d ∈ ds, d.unhashed = none)
    (hreported : ∀ d ∈ g.fresh c ds, d.isReported ch cls = true) (hd : d ∈ ds) :
    g.listings ch c cls ds d.key = 1 := by
  have hall : (ds.filter Descriptor.isHashed) = ds :=
    List.filter_eq_self.mpr fun e he => Descriptor.isHashed_iff.mpr (hhashed e he)
  have hcount : (ds.countP fun e => e.key = d.key) = 1 := by
    have hone := hkeys.count (a := d.key)
    rw [if_pos (List.mem_map_of_mem hd), List.count, List.countP_map] at hone
    exact hone
  have hnone : ((g.fresh c ds).countP fun e => e.key = d.key && !e.isReported ch cls) = 0 := by
    refine List.countP_eq_zero.mpr fun e he => ?_
    simp [hreported e he]
  rw [listings, hall, hcount, hnone]

end Registry

end AspectAgent
