import AspectAgent.Proofs.FirstWeaving
import Mathlib.Data.List.Nodup

/-!
# The registry and the layers of a class

The registry has its sites in the order of weaving, and the members of a class have their layers.
These two accounts agree if around each member lie the sites that the registry has for it. They
still agree when the sites that have just been installed are remembered. Two consequences: no
descriptor has two layers around one member, and what the registry has for a descriptor is what is
installed of it.

The registry has nothing of a descriptor that cannot be hashed. Such a one is woven only into a
class that is not known yet. So what it installs lies innermost, and there is no more of it than one
layer around each member.
-/

namespace AspectAgent

namespace Registry

variable {g : Registry} {c : Nat} {k : DescriptorKey} {sites : List Site}

theorem sitesOf_remember (c' : Nat) : (g.remember c k sites).sitesOf c' =
    g.sitesOf c' ++ if c = c' then sites else [] := by
  unfold sitesOf remember
  rw [List.filter_append, List.flatMap_append]
  by_cases hc : c = c'
  · subst hc
    simp
  · simp [hc]

theorem sites?_remember (c' : Nat) (k' : DescriptorKey) : (g.remember c k sites).sites? c' k' =
    (g.sites? c' k').or (if c = c' ∧ k = k' then some sites else none) := by
  unfold sites? remember
  rw [List.find?_append, Option.map_or]
  by_cases hc : c = c' ∧ k = k'
  · obtain ⟨rfl, rfl⟩ := hc
    simp
  · have hno : (c == c' && decide (k = k')) = false := by simpa using hc
    rw [if_neg hc, List.find?_cons_of_neg (by simp [hno])]
    rfl

theorem sites?_remember_self (hk : g.sites? c k = none) (sites : List Site) :
    (g.remember c k sites).sites? c k = some sites := by
  rw [sites?_remember, hk, if_pos ⟨rfl, rfl⟩, Option.none_or]

theorem sites?_remember_of_ne {k' : DescriptorKey} (hk : k' ≠ k) (c' : Nat) :
    (g.remember c k sites).sites? c' k' = g.sites? c' k' := by
  rw [sites?_remember, if_neg fun h => hk h.2.symm, Option.or_none]

/-- What has been remembered is not replaced. -/
theorem sites?_remember_of_sites {c' : Nat} {k' : DescriptorKey} {sites' : List Site}
    (hk : g.sites? c' k' = some sites') : (g.remember c k sites).sites? c' k' = some sites' := by
  rw [sites?_remember, hk, Option.some_or]

theorem mem_entries_of_sites? (hk : g.sites? c k = some sites) :
    ∃ e ∈ g.entries, e.1 = c ∧ e.2 = (k, sites) := by
  unfold sites? at hk
  rw [Option.map_eq_some_iff] at hk
  obtain ⟨e, hfind, rfl⟩ := hk
  have htest := List.find?_some hfind
  rw [Bool.and_eq_true, beq_iff_eq, decide_eq_true_eq] at htest
  exact ⟨e, List.mem_of_find?_eq_some hfind, htest.1, Prod.ext htest.2 rfl⟩

theorem mem_entries_enter {d : Descriptor} {e : Nat × DescriptorKey × List Site}
    (he : e ∈ (g.enter c d sites).entries) : e ∈ g.entries ∨ e.1 = c := by
  unfold enter at he
  split at he
  · exact (List.mem_append.mp he).imp_right fun he => congrArg Prod.fst (List.mem_singleton.mp he)
  · exact .inl he

theorem mem_attempted_enter {d : Descriptor} {c' : Nat}
    (hc : c' ∈ (g.enter c d sites).attempted) : c' ∈ g.attempted ∨ c' = c := by
  unfold enter at hc
  split at hc
  · exact .inl hc
  · exact (List.mem_append.mp hc).imp_right List.mem_singleton.mp

/-- A class is known into which something has been entered. -/
theorem knows_enter (g : Registry) (c : Nat) (d : Descriptor) (sites : List Site) :
    (g.enter c d sites).knows c = true := by
  unfold enter knows
  split <;> simp [remember]

/-- What is looked up in a class that is not known is not found. -/
theorem knows_of_lookUp {d : Descriptor} (h : g.lookUp c d ≠ .ok none) : g.knows c = true := by
  rw [← Bool.not_eq_false]
  intro hc
  refine h ?_
  cases hf : d.unhashable? with
  | some f => exact lookUp_of_unknown hf hc
  | none =>
    rw [lookUp_of_hashed (Descriptor.unhashable?_eq_none.mp hf)]
    have hnone : g.sites? c d.key = none := by
      refine Option.eq_none_iff_forall_not_mem.mpr fun sites hsites => ?_
      obtain ⟨e, he, hec, -⟩ := mem_entries_of_sites? hsites
      rw [knows, Bool.or_eq_false_iff, List.any_eq_false] at hc
      exact hc.2 e he (by simpa using hec)
    rw [hnone]

/-! ## What is kept -/

/-- A later registry knows the same classes and has what the earlier one has. -/
structure KeptBy (g g' : Registry) : Prop where
  sites? : ∀ {c k sites}, g.sites? c k = some sites → g'.sites? c k = some sites
  knows : ∀ {c}, g.knows c = true → g'.knows c = true

namespace KeptBy

variable {g' g'' : Registry}

theorem refl (g : Registry) : g.KeptBy g := ⟨id, id⟩

theorem trans (h : g.KeptBy g') (h' : g'.KeptBy g'') : g.KeptBy g'' :=
  ⟨fun hk => h'.sites? (h.sites? hk), fun hc => h'.knows (h.knows hc)⟩

theorem enter (g : Registry) (c : Nat) (d : Descriptor) (sites : List Site) :
    g.KeptBy (g.enter c d sites) where
  sites? hk := by
    unfold Registry.enter
    split
    · exact sites?_remember_of_sites hk
    · exact hk
  knows hc := by
    unfold Registry.knows at hc ⊢
    rw [Bool.or_eq_true] at hc ⊢
    unfold Registry.enter
    split
    · refine hc.imp_right fun hentries => ?_
      rw [remember, List.any_append, hentries, Bool.true_or]
    · refine hc.imp_left fun hattempted => ?_
      exact List.contains_iff_mem.mpr
        (List.mem_append_left _ (List.contains_iff_mem.mp hattempted))

end KeptBy

/-- What the registry has for a class it has under the keys of the descriptors, and under each key
once. -/
structure Keyed (g : Registry) (c : Nat) : Prop where
  keyed : ∀ e ∈ g.entries, e.1 = c → ∀ site ∈ e.2.2, site.descriptor.key = e.2.1
  once : ((g.entries.filter fun e => e.1 == c).map fun e => e.2.1).Nodup

namespace Keyed

/-- An entry for one class says nothing about another one. -/
theorem remember_other {c' : Nat} (h : g.Keyed c') (hc : c ≠ c') :
    (g.remember c k sites).Keyed c' := by
  constructor
  · intro e he hec
    rcases List.mem_append.mp he with he | he
    · exact h.keyed e he hec
    · rw [List.mem_singleton.mp he] at hec
      exact absurd hec hc
  · have hentries : (g.remember c k sites).entries.filter (fun e => e.1 == c') =
        g.entries.filter fun e => e.1 == c' := by
      rw [Registry.remember, List.filter_append]
      simp [hc]
    rw [hentries]
    exact h.once

/-- An entry is remembered once, if there was none. -/
theorem remember (h : g.Keyed c) (hk : g.sites? c k = none)
    (hkeyed : ∀ site ∈ sites, site.descriptor.key = k) : (g.remember c k sites).Keyed c := by
  constructor
  · intro e he hec
    rcases List.mem_append.mp he with he | he
    · exact h.keyed e he hec
    · rw [List.mem_singleton.mp he]
      exact hkeyed
  · have hentries : (g.remember c k sites).entries.filter (fun e => e.1 == c) =
        (g.entries.filter fun e => e.1 == c) ++ [(c, k, sites)] := by
      rw [Registry.remember, List.filter_append]
      simp
    rw [hentries, List.map_append]
    refine List.nodup_append.mpr ⟨h.once, List.nodup_singleton k, ?_⟩
    intro k' hk' k'' hk'' heq
    obtain ⟨e, he, rfl⟩ := List.mem_map.mp hk'
    obtain ⟨he, hec⟩ := List.mem_filter.mp he
    rw [List.mem_singleton.mp hk''] at heq
    unfold sites? at hk
    rw [Option.map_eq_none_iff, List.find?_eq_none] at hk
    exact hk e he (by simp [hec, heq])

private theorem filter_flatMap_key {es : List (Nat × DescriptorKey × List Site)}
    (once : (es.map fun e => e.2.1).Nodup)
    (keyed : ∀ e ∈ es, ∀ site ∈ e.2.2, site.descriptor.key = e.2.1)
    {e : Nat × DescriptorKey × List Site} (he : e ∈ es) :
    ((es.flatMap fun e => e.2.2).filter fun s => s.descriptor.key = e.2.1) = e.2.2 := by
  have own : ∀ e' ∈ es, (e'.2.2.filter fun s => s.descriptor.key = e.2.1) =
      if e'.2.1 = e.2.1 then e'.2.2 else [] := by
    intro e' he'
    split
    · rename_i heq
      refine List.filter_eq_self.mpr fun s hs => ?_
      simpa [heq] using keyed e' he' s hs
    · rename_i hne
      refine List.filter_eq_nil_iff.mpr fun s hs => ?_
      simpa [keyed e' he' s hs] using hne
  rw [List.filter_flatMap, List.flatMap_congr own]
  clear own keyed
  induction es with
  | nil => cases he
  | cons e' es ih =>
    obtain ⟨he', hes⟩ := List.nodup_cons.mp once
    rw [List.flatMap_cons]
    rcases List.mem_cons.mp he with rfl | he
    · have hothers : (es.flatMap fun e' => if e'.2.1 = e.2.1 then e'.2.2 else []) = [] := by
        refine List.flatMap_eq_nil_iff.mpr fun e' hmem => if_neg fun heq => he' ?_
        exact List.mem_map.mpr ⟨e', hmem, heq⟩
      rw [if_pos rfl, hothers, List.append_nil]
    · have hne : e'.2.1 ≠ e.2.1 := fun heq => he' (List.mem_map.mpr ⟨e, he, heq.symm⟩)
      rw [if_neg hne, List.nil_append]
      exact ih hes he

/-- The sites of a descriptor in a class are those of its entry. -/
theorem filter_sitesOf (h : g.Keyed c) (hk : g.sites? c k = some sites) :
    ((g.sitesOf c).filter fun s => s.descriptor.key = k) = sites := by
  obtain ⟨⟨_, _, _⟩, he, rfl, heq⟩ := mem_entries_of_sites? hk
  cases heq
  refine filter_flatMap_key h.once (fun e' he' => ?_) (List.mem_filter.mpr ⟨he, by simp⟩)
  obtain ⟨he', hec'⟩ := List.mem_filter.mp he'
  exact h.keyed e' he' (beq_iff_eq.mp hec')

end Keyed

/-- Around a member lie some sites, outside one at most of a descriptor that cannot be hashed. -/
def LieAround (g : Registry) (c : Nat) (m : Member) : Prop :=
  ∃ stray : Option Site, (∀ s ∈ stray, s.descriptor.unhashed ≠ none ∧ c ∈ g.attempted) ∧
    m.layers.map Layer.site = stray.toList ++ (g.sitesOf c).filter fun s => s.method = m.name

/-- The registry and the layers of a class agree. -/
structure AccountsFor (g : Registry) (c : Nat) (cls : HostClass) : Prop where
  names : (cls.members.map Member.name).Nodup
  /-- Around each member lie its sites, in order. -/
  layers : ∀ m ∈ cls.members, g.LieAround c m
  /-- An entry has at most one site for each member, in the order of the members. -/
  declared : ∀ e ∈ g.entries, e.1 = c →
    (e.2.2.map Site.method).Sublist (cls.members.map Member.name)
  keyed : ∀ e ∈ g.entries, e.1 = c → ∀ site ∈ e.2.2, site.descriptor.key = e.2.1
  once : ((g.entries.filter fun e => e.1 == c).map fun e => e.2.1).Nodup
  /-- Only descriptors have entries that can be hashed. -/
  hashed : ∀ e ∈ g.entries, e.1 = c → e.2.1.unhashed = none
  /-- Only methods that the descriptor's matcher accepts have sites. -/
  selected : ∀ site ∈ g.sitesOf c, ∃ description ∈ cls.declaredMethods,
    description.name = site.method ∧
      (site.descriptor.methodMatcher.matcher.test (.method description)).outcome = .ok true

namespace AccountsFor

variable {cls : HostClass} {d : Descriptor} {f : Failure}

theorem toKeyed (h : g.AccountsFor c cls) : g.Keyed c := ⟨h.keyed, h.once⟩

theorem sitesOf_of_fresh (fresh : ∀ e ∈ g.entries, e.1 ≠ c) : g.sitesOf c = [] := by
  have hentries : (g.entries.filter fun e => e.1 == c) = [] :=
    List.filter_eq_nil_iff.mpr fun e he => by simpa using fresh e he
  rw [sitesOf, hentries, List.flatMap_nil]

/-- Of a class without entries there is nothing to tell but what lies around its members. -/
theorem of_fresh (names : (cls.members.map Member.name).Nodup)
    (layers : ∀ m ∈ cls.members, g.LieAround c m) (fresh : ∀ e ∈ g.entries, e.1 ≠ c) :
    g.AccountsFor c cls where
  names := names
  layers := layers
  declared e he hec := absurd hec (fresh e he)
  keyed e he hec := absurd hec (fresh e he)
  once := by
    rw [List.filter_eq_nil_iff.mpr fun e he => by simpa using fresh e he]
    exact List.nodup_nil
  hashed e he hec := absurd hec (fresh e he)
  selected := by
    rw [sitesOf_of_fresh fresh]
    exact fun site hsite => absurd hsite List.not_mem_nil

theorem of_unknown (hc : g.knows c = false) : c ∉ g.attempted ∧ ∀ e ∈ g.entries, e.1 ≠ c := by
  rw [knows, Bool.or_eq_false_iff, List.any_eq_false] at hc
  exact ⟨by simpa using hc.1, fun e he => by simpa using hc.2 e he⟩

/-- Around the members of a class that is not known lies nothing. -/
theorem layers_of_unknown (h : g.AccountsFor c cls) (hc : g.knows c = false) {m : Member}
    (hm : m ∈ cls.members) : m.layers = [] := by
  obtain ⟨hattempted, hfresh⟩ := of_unknown hc
  obtain ⟨stray, hstray, hlayers⟩ := h.layers m hm
  have hnone : stray = none :=
    Option.eq_none_iff_forall_not_mem.mpr fun s hs => hattempted (hstray s hs).2
  rw [hnone, sitesOf_of_fresh hfresh] at hlayers
  exact List.map_eq_nil_iff.mp hlayers

/-- An entry for one class says nothing about another one. -/
theorem remember_other {c' : Nat} (h : g.AccountsFor c' cls) (hc : c ≠ c') :
    (g.remember c k sites).AccountsFor c' cls := by
  have hsites : (g.remember c k sites).sitesOf c' = g.sitesOf c' := by
    rw [sitesOf_remember, if_neg hc, List.append_nil]
  have hentries : ∀ e ∈ (g.remember c k sites).entries, e.1 = c' → e ∈ g.entries := by
    intro e he hec
    rcases List.mem_append.mp he with he | he
    · exact he
    · rw [List.mem_singleton.mp he] at hec
      exact absurd hec hc
  exact
    { names := h.names
      layers := by unfold LieAround; rw [hsites]; exact h.layers
      declared := fun e he hec => h.declared e (hentries e he hec) hec
      keyed := (h.toKeyed.remember_other hc).keyed
      once := (h.toKeyed.remember_other hc).once
      hashed := fun e he hec => h.hashed e (hentries e he hec) hec
      selected := by rw [hsites]; exact h.selected }

/-- Nor does it matter for what has been attempted on another class. -/
theorem attempt_other {c' : Nat} (h : g.AccountsFor c' cls) :
    ({ g with attempted := g.attempted ++ [c] } : Registry).AccountsFor c' cls :=
  { h with
    layers := fun m hm => by
      obtain ⟨stray, hstray, hlayers⟩ := h.layers m hm
      exact ⟨stray, fun s hs => ⟨(hstray s hs).1, List.mem_append_left _ (hstray s hs).2⟩,
        hlayers⟩ }

theorem enter_other {c' : Nat} (h : g.AccountsFor c' cls) (hc : c ≠ c') (d : Descriptor)
    (sites : List Site) : (g.enter c d sites).AccountsFor c' cls := by
  unfold enter
  split
  · exact h.remember_other hc
  · exact h.attempt_other

private theorem filter_layers (guard : Nat) (sites : List Site) (name : String) :
    ((sites.map fun s => (⟨s, guard⟩ : Layer)).filter fun l => l.site.method = name).map
      Layer.site = sites.filter fun s => s.method = name := by
  rw [List.filter_map, List.map_map]
  exact List.map_id _

/-- To remember the sites that have been installed keeps the accounts. -/
theorem remember (h : g.AccountsFor c cls) (guard : Nat) (sites : List Site)
    (hk : g.sites? c k = none) (hhashed : k.unhashed = none)
    (hdeclared : (sites.map Site.method).Sublist (cls.members.map Member.name))
    (hkeyed : ∀ site ∈ sites, site.descriptor.key = k)
    (hselected : ∀ site ∈ sites, ∃ description ∈ cls.declaredMethods,
      description.name = site.method ∧
        (site.descriptor.methodMatcher.matcher.test (.method description)).outcome = .ok true) :
    (g.remember c k sites).AccountsFor c
      (cls.addLayers (sites.map fun s => ⟨s, guard⟩)) := by
  have hsites : (g.remember c k sites).sitesOf c = g.sitesOf c ++ sites := by
    rw [sitesOf_remember, if_pos rfl]
  have hlayers : ∀ m ∈ (cls.addLayers (sites.map fun s => ⟨s, guard⟩)).members,
      (g.remember c k sites).LieAround c m := by
    intro m' hm'
    obtain ⟨m, hm, rfl⟩ := List.mem_map.mp hm'
    obtain ⟨stray, hstray, hlayers⟩ := h.layers m hm
    refine ⟨stray, hstray, ?_⟩
    rw [hsites, List.filter_append, List.map_append, filter_layers, hlayers, List.append_assoc]
  -- an entry is an old one or the new one
  have hentry : ∀ {p : Nat × DescriptorKey × List Site → Prop},
      (∀ e ∈ g.entries, e.1 = c → p e) → p (c, k, sites) →
        ∀ e ∈ (g.remember c k sites).entries, e.1 = c → p e := by
    intro p hold hnew e he hec
    rcases List.mem_append.mp he with he | he
    · exact hold e he hec
    · rw [List.mem_singleton.mp he]
      exact hnew
  exact
    { names := by rw [HostClass.names_addLayers]; exact h.names
      layers := hlayers
      declared := by rw [HostClass.names_addLayers]; exact hentry h.declared hdeclared
      keyed := (h.toKeyed.remember hk hkeyed).keyed
      once := (h.toKeyed.remember hk hkeyed).once
      hashed := hentry h.hashed hhashed
      selected := by
        rw [hsites, HostClass.declaredMethods_addLayers]
        intro site hsite
        rcases List.mem_append.mp hsite with hsite | hsite
        · exact h.selected site hsite
        · exact hselected site hsite }

/-- What has been installed of a descriptor that cannot be hashed is a single layer around each of
some members. -/
theorem attempt (h : g.AccountsFor c cls) (hc : g.knows c = false) (guard : Nat)
    (sites : List Site) (hnodup : (sites.map Site.method).Nodup)
    (hunhashed : ∀ site ∈ sites, site.descriptor.unhashed ≠ none) :
    ({ g with attempted := g.attempted ++ [c] } : Registry).AccountsFor c
      (cls.addLayers (sites.map fun s => ⟨s, guard⟩)) := by
  have hfresh := (of_unknown hc).2
  refine of_fresh (by rw [HostClass.names_addLayers]; exact h.names) (fun m' hm' => ?_) hfresh
  obtain ⟨m, hm, rfl⟩ := List.mem_map.mp hm'
  have hnone := h.layers_of_unknown hc hm
  -- the methods of the sites differ
  have hsingle : ∃ stray : Option Site,
      (sites.filter fun s => s.method = m.name) = stray.toList := by
    have hlength : (sites.filter fun s => s.method = m.name).length ≤ 1 := by
      have hcount := List.nodup_iff_count_le_one.mp hnodup m.name
      rw [List.count, List.countP_map, List.countP_eq_length_filter] at hcount
      exact hcount
    rcases hfilter : sites.filter (fun s => s.method = m.name) with _ | ⟨s, _ | ⟨s', rest⟩⟩
    · exact ⟨none, hfilter⟩
    · exact ⟨some s, hfilter⟩
    · rw [hfilter] at hlength
      simp at hlength
  obtain ⟨stray, hstray⟩ := hsingle
  refine ⟨stray, fun s hs => ?_, ?_⟩
  · have hmem : s ∈ sites.filter fun s => s.method = m.name := by
      rw [hstray]
      exact Option.mem_toList.mpr hs
    exact ⟨hunhashed s (List.mem_of_mem_filter hmem),
      List.mem_append_right _ List.mem_cons_self⟩
  · rw [hnone, List.nil_append, filter_layers, hstray]
    show _ = stray.toList ++ (g.sitesOf c).filter _
    rw [sitesOf_of_fresh hfresh, List.filter_nil, List.append_nil]

/-- No descriptor has two sites for one method. -/
theorem nodup_sites (h : g.AccountsFor c cls) :
    ((g.sitesOf c).map fun s => (s.descriptor.key, s.method)).Nodup := by
  have hmem : ∀ e ∈ g.entries.filter fun e => e.1 == c, e ∈ g.entries ∧ e.1 = c := by
    intro e he
    obtain ⟨he, hec⟩ := List.mem_filter.mp he
    exact ⟨he, beq_iff_eq.mp hec⟩
  rw [sitesOf, List.map_flatMap, List.nodup_flatMap]
  constructor
  · -- within one entry the methods differ
    intro e he
    obtain ⟨he, hec⟩ := hmem e he
    have hmethods : (e.2.2.map Site.method).Nodup := (h.declared e he hec).nodup h.names
    have hsnd : (e.2.2.map fun s => (s.descriptor.key, s.method)).map Prod.snd =
        e.2.2.map Site.method := List.map_map
    exact List.Nodup.of_map Prod.snd (hsnd ▸ hmethods)
  · -- between two entries the keys differ
    refine (List.pairwise_map.mp h.once).imp_of_mem fun {e e'} he he' hne => ?_
    obtain ⟨he, hec⟩ := hmem e he
    obtain ⟨he', hec'⟩ := hmem e' he'
    intro p hp hp'
    obtain ⟨s, hs, rfl⟩ := List.mem_map.mp hp
    obtain ⟨s', hs', heq⟩ := List.mem_map.mp hp'
    have hkey : s'.descriptor.key = s.descriptor.key := congrArg Prod.fst heq
    rw [h.keyed e he hec s hs, h.keyed e' he' hec' s' hs'] at hkey
    exact hne hkey.symm

/-- What the registry has for a class it has of descriptors that can be hashed. -/
theorem unhashed_of_mem (h : g.AccountsFor c cls) {site : Site} (hsite : site ∈ g.sitesOf c) :
    site.descriptor.unhashed = none := by
  obtain ⟨e, he, hmem⟩ := List.mem_flatMap.mp hsite
  obtain ⟨he, hec⟩ := List.mem_filter.mp he
  have hkey := h.keyed e he (beq_iff_eq.mp hec) site hmem
  have hhashed := h.hashed e he (beq_iff_eq.mp hec)
  rw [← hkey] at hhashed
  exact hhashed

/-- No descriptor has two layers around one member. -/
theorem nodup_keys (h : g.AccountsFor c cls) {m : Member} (hm : m ∈ cls.members) :
    (m.layers.map fun l => l.site.descriptor.key).Nodup := by
  let around := (g.sitesOf c).filter fun s => s.method = m.name
  -- among the sites around one member the key tells the pair
  have hpaired : (around.map fun s => s.descriptor.key).map (fun k => (k, m.name)) =
      around.map fun s => (s.descriptor.key, s.method) := by
    rw [List.map_map]
    refine List.map_congr_left fun s hs => ?_
    have hmethod : s.method = m.name := by simpa using List.of_mem_filter hs
    rw [hmethod]
    rfl
  have hpairs : (around.map fun s => (s.descriptor.key, s.method)).Nodup :=
    h.nodup_sites.sublist (List.filter_sublist.map _)
  have hentered : (around.map fun s => s.descriptor.key).Nodup :=
    List.Nodup.of_map (fun k => (k, m.name)) (hpaired ▸ hpairs)
  obtain ⟨stray, hstray, hlayers⟩ := h.layers m hm
  have hkeys : (m.layers.map fun l => l.site.descriptor.key) =
      (stray.toList ++ around).map fun s => s.descriptor.key := by
    show _ = (stray.toList ++ (g.sitesOf c).filter fun s => s.method = m.name).map _
    rw [← hlayers, List.map_map]
    rfl
  rw [hkeys, List.map_append]
  cases stray with
  | none => exact hentered
  | some s =>
    refine List.nodup_cons.mpr ⟨fun hmem => (hstray s rfl).1 ?_, hentered⟩
    obtain ⟨s', hs', hkey⟩ := List.mem_map.mp hmem
    rw [← Descriptor.unhashed_of_key_eq hkey]
    exact h.unhashed_of_mem (List.mem_of_mem_filter hs')

private theorem flatMap_filter_method {names : List String} (hnames : names.Nodup)
    (h : (sites.map Site.method).Sublist names) :
    (names.flatMap fun n => sites.filter fun s => s.method = n) = sites := by
  induction names generalizing sites with
  | nil => rw [List.map_eq_nil_iff.mp (List.sublist_nil.mp h), List.flatMap_nil]
  | cons n names ih =>
    obtain ⟨hn, hnames⟩ := List.nodup_cons.mp hnames
    have skip : ∀ ss : List Site, (ss.map Site.method).Sublist names →
        (ss.filter fun s => s.method = n) = [] := by
      intro ss hss
      refine List.filter_eq_nil_iff.mpr fun s hs => ?_
      have hmem : s.method ∈ names := hss.subset (List.mem_map_of_mem hs)
      have hne : s.method ≠ n := fun heq => hn (heq ▸ hmem)
      simpa using hne
    rw [List.flatMap_cons]
    cases sites with
    | nil => simp
    | cons s ss =>
      rcases List.sublist_cons_iff.mp h with hskip | ⟨r, hr, hsub⟩
      · rw [skip _ hskip, List.nil_append]
        exact ih hnames hskip
      · obtain ⟨hmethod, rfl⟩ := List.cons.inj hr
        have hrest : (names.flatMap fun n' => (s :: ss).filter fun s => s.method = n') =
            names.flatMap fun n' => ss.filter fun s => s.method = n' := by
          refine List.flatMap_congr fun n' hn' => ?_
          have hne : s.method ≠ n' := fun heq => hn (hmethod ▸ heq ▸ hn')
          rw [List.filter_cons_of_neg (by simpa using hne)]
        rw [List.filter_cons_of_pos (by simpa using hmethod), skip ss hsub, hrest,
          ih hnames hsub]
        rfl

/-- The sites that are installed are those that the registry has. -/
theorem installed (h : g.AccountsFor c cls) (hk : g.sites? c k = some sites) :
    cls.installed k = sites := by
  obtain ⟨e, he, hec, hentry⟩ := mem_entries_of_sites? hk
  have hdeclared := h.declared e he hec
  have hhashed := h.hashed e he hec
  rw [hentry] at hdeclared hhashed
  have hmember : ∀ m ∈ cls.members,
      ((m.layers.map Layer.site).filter fun s => s.descriptor.key = k) =
        sites.filter fun s => s.method = m.name := by
    intro m hm
    obtain ⟨stray, hstray, hlayers⟩ := h.layers m hm
    have hnone : (stray.toList.filter fun s => s.descriptor.key = k) = [] := by
      refine List.filter_eq_nil_iff.mpr fun s hs => ?_
      have hne : s.descriptor.key ≠ k := fun heq =>
        (hstray s (Option.mem_toList.mp hs)).1 ((congrArg DescriptorKey.unhashed heq).trans hhashed)
      simpa using hne
    rw [hlayers, List.filter_append, hnone, List.nil_append, List.filter_comm,
      h.toKeyed.filter_sitesOf hk]
  rw [HostClass.installed, List.flatMap_congr hmember, ← List.flatMap_map Member.name fun n =>
    sites.filter fun s => s.method = n]
  exact flatMap_filter_method h.names hdeclared

end AccountsFor

end Registry

end AspectAgent
