import AspectAgent.Proofs.AppliedDescriptors
import Mathlib.Data.List.TakeWhile

/-!
# Weaving each method once

Where every matcher is the one that was made under its number, the key of a descriptor tells which
methods of a class it accepts. If moreover all methods can be assigned, what is remembered under a
key are just these methods, whichever descriptor of the key it was that was woven. So a descriptor
whose key is remembered has one layer around each method that it accepts and none around any other
member; and after a transformation the key of every descriptor is remembered that accepts the class.
-/

namespace AspectAgent

open Act

variable {made : Nat → Matcher}

namespace Descriptor

/-- The matchers of the descriptor are those that were made under their numbers, and it can be
hashed. -/
structure MadeFrom (made : Nat → Matcher) (d : Descriptor) : Prop where
  type : d.typeMatcher.matcher = made d.typeMatcher.number
  method : d.methodMatcher.matcher = made d.methodMatcher.number
  hashed : d.unhashed = none

/-- Around each member lies one layer of the descriptor if the member is a method that the
descriptor accepts, and none otherwise. -/
def WovenOnce (d : Descriptor) (cls : HostClass) : Prop :=
  ∀ m ∈ cls.members, (m.layers.countP fun l => l.site.descriptor.key = d.key) =
    if m.describe?.any d.acceptsMethod then 1 else 0

theorem FailsOrdinarilyOn.of_made {d : Descriptor} (h : d.MadeFrom made)
    (hmade : ∀ n s, ((made n).test s).FailsOrdinarily) (cls : HostClass) :
    d.FailsOrdinarilyOn cls where
  type := by rw [h.type]; exact hmade _ _
  method m _ := by rw [h.method]; exact hmade _ _

end Descriptor

/-- The names of the methods of a class that a matcher accepts. -/
def HostClass.accepted (cls : HostClass) (matcher : Matcher) : List String :=
  (cls.declaredMethods.filter fun m => (matcher.test (.method m)).accepts).map
    MethodDescription.name

namespace Loom

/-- The registry and the layers agree, all members can be assigned, and under each key just the
methods are remembered that the method matcher of the key accepts. -/
structure Complete (made : Nat → Matcher) (l : Loom) : Prop where
  consistent : l.Consistent
  free : ∀ c cls, l.host.class? c = some cls → cls.locked = []
  methods : ∀ c cls k sites, l.host.class? c = some cls → l.registry.sites? c k = some sites →
    sites.map Site.method = cls.accepted (made k.methodMatcher)

variable {l : Loom} {c : Nat} {cls : HostClass} {d : Descriptor} {sites : List Site}

/-! ## What is remembered and what is installed -/

private theorem mem_accepted {m : Member} (hnames : (cls.members.map Member.name).Nodup)
    (hm : m ∈ cls.members) (matcher : Matcher) : m.name ∈ cls.accepted matcher ↔
      m.describe?.any (fun x => (matcher.test (.method x)).accepts) = true := by
  rw [HostClass.accepted, List.mem_map, Option.any_eq_true]
  constructor
  · rintro ⟨x, hx, hname⟩
    obtain ⟨hx, haccepts⟩ := List.mem_filter.mp hx
    obtain ⟨m', hm', hdescribe⟩ := List.mem_filterMap.mp hx
    have hsame : m' = m :=
      List.inj_on_of_nodup_map hnames hm' hm ((m'.name_of_describe? hdescribe).symm.trans hname)
    exact ⟨x, hsame ▸ hdescribe, haccepts⟩
  · rintro ⟨x, hdescribe, haccepts⟩
    have hx : x ∈ cls.declaredMethods := List.mem_filterMap.mpr ⟨m, hm, hdescribe⟩
    exact ⟨x, List.mem_filter.mpr ⟨hx, haccepts⟩, m.name_of_describe? hdescribe⟩

private theorem nodup_accepted (hnames : (cls.members.map Member.name).Nodup) (matcher : Matcher) :
    (cls.accepted matcher).Nodup :=
  hnames.sublist ((List.filter_sublist.map _).trans cls.declaredMethods_names)

/-- What is remembered under a key is around the members, once around each. -/
theorem Complete.wovenOnce (h : l.Complete made) (hc : l.host.class? c = some cls)
    (hd : d.MadeFrom made) (hk : l.registry.sites? c d.key = some sites) : d.WovenOnce cls := by
  intro m hm
  have haccounts := h.consistent.accounts c cls hc
  obtain ⟨stray, hstray, hlayers⟩ := haccounts.layers m hm
  have hnone : (stray.toList.countP fun s => s.descriptor.key = d.key) = 0 := by
    refine List.countP_eq_zero.mpr fun s hs hkey => ?_
    have hunhashed := (hstray s (Option.mem_toList.mp hs)).1
    rw [Descriptor.unhashed_of_key_eq (by simpa using hkey)] at hunhashed
    exact hunhashed hd.hashed
  have hcount : (m.layers.countP fun l => l.site.descriptor.key = d.key) =
      (cls.accepted (made d.methodMatcher.number)).count m.name :=
    calc (m.layers.countP fun l => l.site.descriptor.key = d.key)
        = (m.layers.map Layer.site).countP (fun s => s.descriptor.key = d.key) := by
          rw [List.countP_map]
          rfl
      _ = ((l.registry.sitesOf c).filter fun s => s.descriptor.key = d.key).countP
            (fun s => s.method = m.name) := by
          rw [hlayers, List.countP_append, hnone, Nat.zero_add, List.countP_filter,
            List.countP_filter]
          simp only [Bool.and_comm]
      _ = (sites.map Site.method).count m.name := by
          rw [haccounts.toKeyed.filter_sitesOf hk, List.count, List.countP_map]
          rfl
      _ = (cls.accepted (made d.methodMatcher.number)).count m.name := by
          rw [h.methods c cls d.key sites hc hk]
          rfl
  rw [hcount, (nodup_accepted haccounts.names _).count]
  simp only [mem_accepted haccounts.names hm, ← hd.method]
  rfl

/-! ## Transformations -/

/-- Only steps are taken. -/
def steps : Contract Loom where
  allows _ l l' := Relation.ReflTransGen Step l l'
  refl _ _ := .refl
  trans h h' := h.trans h'

theorem transform_steps (a : Agent) (c : Nat) : steps.Meets (a.transform c) := by
  have hallows : AllowsWeaving steps c := by
    constructor
    · exact fun _ l r _ => Relation.ReflTransGen.single (.run l r)
    · exact fun guard d l => Relation.ReflTransGen.single (.weave guard c d l)
  exact transform_meets hallows a

end Loom

namespace Registry

variable {g : Registry} {c : Nat} {cls : HostClass}

/-- What is remembered after descriptors have been woven was so before, or is that of one of them.
-/
theorem sites?_wovenInto_cases {ds : List Descriptor} {c' : Nat} {k : DescriptorKey}
    {sites : List Site} (h : (g.wovenInto c cls ds).sites? c' k = some sites) :
    g.sites? c' k = some sites ∨ c' = c ∧ ∃ d ∈ ds, d.key = k ∧ sites = d.sitesOn cls := by
  induction ds generalizing g with
  | nil =>
    rw [wovenInto, fresh, List.map_nil, List.append_nil] at h
    exact .inl h
  | cons d ds ih =>
    have hlater : ∀ {P : Descriptor → Prop}, (∃ e ∈ ds, P e) → ∃ e ∈ d :: ds, P e := by
      rintro P ⟨e, he, hP⟩
      exact ⟨e, List.mem_cons_of_mem d he, hP⟩
    cases hd : g.sites? c d.key with
    | some _ =>
      rw [wovenInto_of_sites hd] at h
      exact (ih h).imp_right (And.imp_right hlater)
    | none =>
      rw [wovenInto_of_new hd] at h
      rcases ih h with hremembered | ⟨hc, hds⟩
      · rw [sites?_remember, Option.or_eq_some_iff] at hremembered
        rcases hremembered with hknown | ⟨-, hnew⟩
        · exact .inl hknown
        · split at hnew
          · rename_i hkey
            cases hnew
            exact .inr ⟨hkey.1.symm, d, List.mem_cons_self, hkey.2, rfl⟩
          · cases hnew
      · exact .inr ⟨hc, hlater hds⟩

theorem exists_sites?_wovenInto {d : Descriptor} {ds : List Descriptor} (hd : d ∈ ds) :
    ∃ sites, (g.wovenInto c cls ds).sites? c d.key = some sites := by
  induction ds generalizing g with
  | nil => cases hd
  | cons e ds ih =>
    cases he : g.sites? c e.key with
    | some sites =>
      rw [wovenInto_of_sites he]
      rcases List.mem_cons.mp hd with rfl | hd
      · exact ⟨sites, sites?_wovenInto_of_known he ds⟩
      · exact ih hd
    | none =>
      rw [wovenInto_of_new he]
      rcases List.mem_cons.mp hd with rfl | hd
      · exact ⟨_, sites?_wovenInto_of_known (sites?_remember_self he _) ds⟩
      · exact ih hd

end Registry

namespace Descriptor

/-- Where all members can be assigned the sites are those of all methods. -/
theorem methods_sitesOn {d : Descriptor} {cls : HostClass} (h : cls.locked = []) :
    (d.sitesOn cls).map Site.method = cls.accepted d.methodMatcher.matcher := by
  have hall : ((d.methodsOn cls).takeWhile fun m => !cls.locked.contains m.name) =
      d.methodsOn cls := by
    rw [h, List.takeWhile_eq_self_iff]
    exact fun _ _ => rfl
  rw [sitesOn, hall, List.map_map]
  rfl

end Descriptor

namespace Loom

variable {l : Loom} {a : Agent} {c : Nat}

/-- After a transformation of a class the other classes are as they were, and the keys of the
descriptors that accept the class are remembered. -/
structure TransformedBy (a : Agent) (c : Nat) (l l' : Loom) : Prop where
  others : ∀ c', c' ≠ c → l'.host.class? c' = l.host.class? c'
  woven : ∀ cls, l.host.class? c = some cls → ∀ d ∈ a.applied cls,
    ∃ sites, l'.registry.sites? c d.key = some sites

theorem accepted_addLayers (cls : HostClass) (layers : List Layer) (matcher : Matcher) :
    (cls.addLayers layers).accepted matcher = cls.accepted matcher := by
  rw [HostClass.accepted, HostClass.declaredMethods_addLayers, HostClass.accepted]

/-- Every class after some layers have been put around one is a class of before, with layers. -/
theorem exists_of_class?_modify {h : Host} {layers : List Layer} {c' : Nat} {cls' : HostClass}
    (hc' : (h.modify c (HostClass.addLayers layers)).class? c' = some cls') :
    ∃ old new, h.class? c' = some old ∧ cls' = old.addLayers new := by
  rw [Host.class?_modify] at hc'
  split at hc'
  · obtain ⟨old, hold, rfl⟩ := Option.map_eq_some_iff.mp hc'
    exact ⟨old, layers, hold, rfl⟩
  · exact ⟨cls', [], hc', by rw [HostClass.addLayers_nil]; rfl⟩

/-- Accounts that are still consistent when descriptors have been woven are still complete. -/
theorem Complete.wovenInto (h : l.Complete made) {cls : HostClass} (hc : l.host.class? c = some cls)
    {ds : List Descriptor} (hds : ∀ d ∈ ds, d.MadeFrom made) {layers : List Layer} {r : Run}
    (hconsistent : Consistent ⟨l.host.modify c (HostClass.addLayers layers),
      l.registry.wovenInto c cls ds, r⟩) :
    Complete made ⟨l.host.modify c (HostClass.addLayers layers),
      l.registry.wovenInto c cls ds, r⟩ := by
  refine ⟨hconsistent, fun c' cls' hc' => ?_, fun c' cls' k sites hc' hk => ?_⟩
  · obtain ⟨old, new, hold, rfl⟩ := exists_of_class?_modify hc'
    exact h.free c' old hold
  · obtain ⟨old, new, hold, rfl⟩ := exists_of_class?_modify hc'
    rw [accepted_addLayers]
    rcases Registry.sites?_wovenInto_cases hk with hknown | ⟨rfl, d, hd, rfl, rfl⟩
    · exact h.methods c' old k sites hold hknown
    · cases hc.symm.trans hold
      rw [Descriptor.methods_sitesOn (h.free c' cls hc), (hds d hd).method]
      rfl

/-- A transformation returns and keeps the accounts complete. -/
theorem Complete.transform (h : l.Complete made)
    (hmade : ∀ n s, ((made n).test s).FailsOrdinarily)
    (hds : ∀ d ∈ a.descriptors, d.MadeFrom made) (hsafe : LogsSafely l) (c : Nat) :
    ∃ sites l', a.transform c l = (.returned sites, l') ∧ l'.Complete made ∧ LogsSafely l' ∧
      TransformedBy a c l l' := by
  cases hc : l.host.class? c with
  | none =>
    exact ⟨[], l, Agent.transform_of_missing hc, h, hsafe, fun _ _ => rfl,
      fun cls hcls => by rw [hc] at hcls; cases hcls⟩
  | some cls =>
    have hfails : ∀ d ∈ a.descriptors, d.FailsOrdinarilyOn cls :=
      fun d hd => .of_made (hds d hd) hmade cls
    have happlied : ∀ d ∈ a.applied cls, d.MadeFrom made :=
      fun d hd => hds d ((Agent.applied_sublist a cls).subset hd)
    obtain ⟨r, htransform, hr⟩ :=
      Agent.transform_settled hc hfails (fun d hd => (happlied d hd).hashed) hsafe
    have hsteps := transform_steps a c l
    rw [Act.Contract.MeetsAt, htransform] at hsteps
    refine ⟨_, _, htransform, h.wovenInto hc happlied (h.consistent.steps hsteps), hr, ?_, ?_⟩
    · intro c' hc'
      exact (Host.class?_modify _ _ _ _).trans (if_neg (Ne.symm hc'))
    · intro cls' hcls' d hd
      cases hc.symm.trans hcls'
      exact Registry.exists_sites?_wovenInto hd

theorem Complete.run (h : l.Complete made) (r : Run) : ({ l with run := r } : Loom).Complete made :=
  ⟨⟨h.consistent.accounts, h.consistent.known, h.consistent.attempted⟩, h.free, h.methods⟩

theorem Complete.declare (h : l.Complete made) {declaration : ClassDeclaration} {cls : HostClass}
    {host : Host} (hd : l.host.declare declaration = .ok (cls, host))
    (hfree : declaration.locked = []) : ({ l with host := host } : Loom).Complete made := by
  have hconsistent := h.consistent.declare hd
  unfold Host.declare at hd
  split at hd
  · cases hd
  · cases hd
    refine ⟨hconsistent, fun c cls hc => ?_, fun c cls k sites hc hk => ?_⟩
    · unfold Host.class? at hc
      rw [List.getElem?_append] at hc
      split at hc
      · exact h.free c cls hc
      · have hcls := List.mem_of_getElem? hc
        rw [List.mem_singleton.mp hcls]
        exact hfree
    · -- of a new class nothing is remembered
      obtain ⟨e, he, rfl, -⟩ := Registry.mem_entries_of_sites? hk
      have hlt : e.1 < l.host.classes.length := h.consistent.known e he
      unfold Host.class? at hc
      rw [List.getElem?_append_left hlt] at hc
      exact h.methods e.1 cls k sites hc hk

end Loom

end AspectAgent
