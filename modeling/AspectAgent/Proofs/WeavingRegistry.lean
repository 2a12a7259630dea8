import AspectAgent.Proofs.RegistryAccounts
import Mathlib.Logic.Relation

/-!
# The registry of woven sites

Whatever is woven, and however a weaving ends, the registry and the layers of all classes agree: a
weaving puts the layers of some matching methods around the class, and remembers just these. A
weaving that has been attempted is final: to weave the descriptor again returns what it has
installed and changes nothing.

This takes descriptors that can be hashed. What is installed of another one is not remembered, and
to weave it again fails.
-/

namespace AspectAgent

open Act

namespace Loom

/-- The registry and the layers of all classes agree. -/
structure Consistent (l : Loom) : Prop where
  accounts : ∀ c cls, l.host.class? c = some cls → l.registry.AccountsFor c cls
  known : ∀ e ∈ l.registry.entries, e.1 < l.host.classes.length
  attempted : ∀ c ∈ l.registry.attempted, c < l.host.classes.length

/-- A step in the life of a host into which descriptors are woven: a class is declared, something
runs, or a weaving is attempted. -/
inductive Step : Loom → Loom → Prop
  | declare {l d cls host} (h : l.host.declare d = .ok (cls, host)) : Step l { l with host := host }
  | run (l r) : Step l { l with run := r }
  | weave (guard c d l) : Step l (weave guard c d l).2

variable {guard c : Nat} {cls : HostClass} {d : Descriptor} {l l' : Loom} {k : DescriptorKey}
  {sites : List Site} {f : Failure}

theorem length_modify (h : Host) (c : Nat) (g : HostClass → HostClass) :
    (h.modify c g).classes.length = h.classes.length := List.length_modify _ _ _

/-- What a first weaving installs is entered, and keeps the accounts. -/
theorem Consistent.enter (h : l.Consistent) (hk : l.registry.lookUp c d = .ok none)
    (hc : l.host.class? c = some cls) (ch : LogChannel) (guard : Nat) :
    (l.registry.enter c d (d.firstSites ch cls)).AccountsFor c
      (cls.addLayers (d.firstLayers ch cls guard)) := by
  have haccounts := h.accounts c cls hc
  have hsublist : ((d.firstSites ch cls).map Site.method).Sublist
      (cls.members.map Member.name) :=
    (d.firstSites_sublist ch cls).trans cls.declaredMethods_names
  have hown : ∀ site ∈ d.firstSites ch cls, site.descriptor = d :=
    fun site hsite => Descriptor.descriptor_of_mem_sitesOn (d.firstSites_subset ch cls hsite)
  cases hf : d.unhashable? with
  | none =>
    have hhashed := Descriptor.unhashable?_eq_none.mp hf
    rw [Registry.lookUp_of_hashed hhashed] at hk
    rw [Registry.enter_of_hashed hhashed]
    refine haccounts.remember guard _ (Except.ok.inj hk) hhashed hsublist
      (fun site hsite => by rw [hown site hsite]) fun site hsite => ?_
    obtain ⟨m, hm, hname, hmatched⟩ :=
      Descriptor.accepted_of_mem_sitesOn (d.firstSites_subset ch cls hsite)
    exact ⟨m, hm, hname, by rw [hown site hsite]; exact hmatched⟩
  | some f =>
    rw [Registry.enter_of_unhashed hf]
    cases hknown : l.registry.knows c with
    | true =>
      rw [Registry.lookUp_of_known hf hknown] at hk
      cases hk
    | false =>
      refine haccounts.attempt hknown guard _ (hsublist.nodup haccounts.names) fun site hsite => ?_
      rw [hown site hsite]
      intro hhashed
      rw [Descriptor.unhashable?_of_hashed hhashed] at hf
      cases hf

theorem Consistent.weave (h : l.Consistent) (guard c : Nat) (d : Descriptor) :
    (Loom.weave guard c d l).2.Consistent := by
  rcases weave_snd_cases guard c d l with hsame | ⟨hk, cls, r, hc, hweave⟩
  · rw [hsame]
    exact h
  · rw [hweave]
    have hlt : c < l.host.classes.length := (List.getElem?_eq_some_iff.mp hc).1
    constructor
    · intro c' cls' hc'
      rw [Host.class?_modify] at hc'
      by_cases hcc : c = c'
      · subst hcc
        rw [if_pos rfl, hc, Option.map_some, Option.some_inj] at hc'
        subst hc'
        exact h.enter hk hc _ guard
      · rw [if_neg hcc] at hc'
        exact (h.accounts c' cls' hc').enter_other hcc d _
    · intro e he
      rw [length_modify]
      rcases Registry.mem_entries_enter he with he | he
      · exact h.known e he
      · exact he ▸ hlt
    · intro c' hc'
      rw [length_modify]
      rcases Registry.mem_attempted_enter hc' with hc' | rfl
      · exact h.attempted c' hc'
      · exact hlt

theorem Consistent.declare (h : l.Consistent) {declaration : ClassDeclaration} {host : Host}
    (hd : l.host.declare declaration = .ok (cls, host)) :
    ({ l with host := host } : Loom).Consistent := by
  unfold Host.declare at hd
  split at hd
  · cases hd
  · cases hd
    refine ⟨?_, fun e he => ?_, fun c hc => ?_⟩
    · intro c cls hc
      unfold Host.class? at hc
      rw [List.getElem?_append] at hc
      split at hc
      · exact h.accounts c cls hc
      · rename_i hlt
        obtain ⟨hi, hcls⟩ := List.getElem?_eq_some_iff.mp hc
        rw [List.getElem_singleton] at hcls
        subst hcls
        -- nothing has been woven into a class that was not there before
        have hfresh : ∀ e ∈ l.registry.entries, e.1 ≠ c := fun e he hec =>
          hlt (hec ▸ h.known e he)
        refine .of_fresh ?_ ?_ ?_
        · rw [List.map_map]
          exact Table.nodup_keys_ofPairs declaration.members
        · intro m hm
          obtain ⟨e, -, rfl⟩ := List.mem_map.mp hm
          refine ⟨none, nofun, ?_⟩
          rw [Registry.AccountsFor.sitesOf_of_fresh hfresh]
          rfl
        · exact hfresh
    · have hlt := h.known e he
      show e.1 < (l.host.classes ++ [_]).length
      rw [List.length_append, List.length_singleton]
      omega
    · have hlt := h.attempted c hc
      show c < (l.host.classes ++ [_]).length
      rw [List.length_append, List.length_singleton]
      omega

theorem Step.consistent (hs : Step l l') (h : l.Consistent) : l'.Consistent := by
  cases hs with
  | declare hd => exact h.declare hd
  | run l r => exact ⟨h.accounts, h.known, h.attempted⟩
  | weave guard c d l => exact h.weave guard c d

theorem Consistent.steps (h : l.Consistent) (hsteps : Relation.ReflTransGen Step l l') :
    l'.Consistent := by
  induction hsteps with
  | refl => exact h
  | tail _ hs ih => exact hs.consistent ih

/-- The registry and the layers agree at all times. -/
theorem consistent_of_steps {r : Run} (hl : Relation.ReflTransGen Step { run := r } l) :
    l.Consistent :=
  Consistent.steps ⟨fun c cls hc => absurd hc (by simp [Host.class?]),
    fun e he => absurd he List.not_mem_nil, fun c hc => absurd hc List.not_mem_nil⟩ hl

/-- What the registry has it keeps. -/
theorem Step.keeps (hs : Step l l') : l.registry.KeptBy l'.registry := by
  cases hs with
  | declare hd => exact .refl _
  | run l r => exact .refl _
  | weave guard c' d l =>
    rcases weave_snd_cases guard c' d l with hsame | ⟨hk, cls, r, -, hweave⟩
    · rw [hsame]
      exact .refl _
    · rw [hweave]
      exact .enter l.registry c' d _

theorem keeps_of_steps (hs : Relation.ReflTransGen Step l l') :
    l.registry.KeptBy l'.registry := by
  induction hs with
  | refl => exact .refl _
  | tail _ hs ih => exact ih.trans hs.keeps

theorem sites?_of_steps (hs : Relation.ReflTransGen Step l l')
    (hk : l.registry.sites? c k = some sites) : l'.registry.sites? c k = some sites :=
  (keeps_of_steps hs).sites? hk

/-- An attempt to weave into a class is remembered, however it ended. -/
theorem sites?_weave (guard : Nat) (hd : d.unhashed = none) (hc : l.host.class? c = some cls) :
    ∃ sites, (Loom.weave guard c d l).2.registry.sites? c d.key = some sites := by
  cases hk : l.registry.sites? c d.key with
  | some sites =>
    have hfound := Registry.lookUp_of_hashed hd l.registry c
    rw [hk] at hfound
    exact ⟨sites, by rw [weave_of_sites hfound, hk]⟩
  | none =>
    have hfound := Registry.lookUp_of_hashed hd l.registry c
    rw [hk] at hfound
    obtain ⟨r, -, hweave⟩ := weave_first guard hfound hc (logsLike_channel (σ := Loom) l)
    refine ⟨d.firstSites (HasChannel.channel l) cls, ?_⟩
    rw [hweave, Registry.enter_of_hashed hd, Registry.sites?_remember_self hk]

/-- A class is known into which a weaving has been attempted. -/
theorem knows_weave (guard : Nat) (d : Descriptor) (hc : l.host.class? c = some cls) :
    (Loom.weave guard c d l).2.registry.knows c = true := by
  cases hk : l.registry.lookUp c d with
  | error f =>
    rw [weave_of_refused hk]
    exact Registry.knows_of_lookUp (by rw [hk]; nofun)
  | ok found =>
    cases found with
    | some sites =>
      rw [weave_of_sites hk]
      exact Registry.knows_of_lookUp (by rw [hk]; nofun)
    | none =>
      obtain ⟨r, -, hweave⟩ := weave_first guard hk hc (logsLike_channel (σ := Loom) l)
      rw [hweave]
      exact Registry.knows_enter _ _ _ _

end Loom

/-- The declaration of a class with a second method, which cannot be assigned. -/
def ClassDeclaration.countdown : ClassDeclaration where
  module := "app"
  qualname := "Countdown"
  members := [("step", .method .onInstance .countdown), ("stop", .method .onInstance .countdown)]
  locked := ["stop"]

/-- A host in which only this class has been declared. -/
def Loom.countdown : Loom :=
  match ({} : Host).declare .countdown with
  | .ok (_, host) => { host := host }
  | .error _ => {}

end AspectAgent
