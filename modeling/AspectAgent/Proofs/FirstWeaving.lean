import AspectAgent.Proofs.Selecting
import AspectAgent.Weaving.Weaver

/-!
# The first weaving of a descriptor

A weaving looks the descriptor up first. If it finds its sites, these are returned, and if the
lookup fails, so does the weaving; nothing is changed by either. Otherwise the weaving selects the
methods of the class and puts the sites of the descriptor around them, up to the first method that
cannot be assigned. They are entered into the registry, and a descriptor that cannot be hashed ends
the weaving there.

So both what the first weaving installs and what it comes to are functions of the class, the
descriptor and the channel. Layers that the class has already make no difference.
-/

namespace AspectAgent

open Act

namespace HostClass

theorem addLayers_append (cls : HostClass) (layers layers' : List Layer) :
    (cls.addLayers layers).addLayers layers' = cls.addLayers (layers ++ layers') := by
  unfold addLayers
  rw [List.map_map]
  refine congrArg (fun members => { cls with members := members })
    (List.map_congr_left fun m _ => ?_)
  simp

@[simp] theorem declaredMethods_unwoven (cls : HostClass) :
    cls.unwoven.declaredMethods = cls.declaredMethods := by
  unfold declaredMethods unwoven
  rw [List.filterMap_map]
  rfl

end HostClass

namespace Host

theorem modify_modify (h : Host) (c : Nat) (f g : HostClass → HostClass) :
    (h.modify c f).modify c g = h.modify c (g ∘ f) := by
  unfold modify
  rw [List.modify_modify_eq]

/-- Layers that are put around a class twice are put around it at once. -/
theorem modify_addLayers (h : Host) (c : Nat) (layers layers' : List Layer) :
    (h.modify c (HostClass.addLayers layers)).modify c (HostClass.addLayers layers') =
      h.modify c (HostClass.addLayers (layers ++ layers')) := by
  rw [modify_modify]
  exact congrArg (h.modify c) (funext fun cls => cls.addLayers_append layers layers')

end Host

/-! ## Looking up and entering -/

namespace Descriptor

variable {d : Descriptor} {f : Failure}

def isHashed (d : Descriptor) : Bool := d.unhashed.isNone

theorem isHashed_iff : d.isHashed = true ↔ d.unhashed = none := Option.isNone_iff_eq_none

theorem unhashable?_of_hashed (h : d.unhashed = none) : d.unhashable? = none := by
  rw [unhashable?, h]
  rfl

theorem unhashable?_eq_none : d.unhashable? = none ↔ d.unhashed = none := Option.map_eq_none_iff

theorem isOrdinary_of_unhashable (h : d.unhashable? = some f) : f.isOrdinary = true := by
  obtain ⟨_, -, rfl⟩ := Option.map_eq_some_iff.mp h
  rfl

/-- A descriptor that cannot be hashed has the key of none that can be. -/
theorem unhashed_of_key_eq {e : Descriptor} (h : e.key = d.key) : e.unhashed = d.unhashed :=
  congrArg DescriptorKey.unhashed h

end Descriptor

namespace Registry

variable {g : Registry} {c : Nat} {d : Descriptor} {f : Failure} {sites : List Site}

theorem lookUp_of_hashed (h : d.unhashed = none) (g : Registry) (c : Nat) :
    g.lookUp c d = .ok (g.sites? c d.key) := by
  rw [lookUp, Descriptor.unhashable?_of_hashed h]

theorem lookUp_of_known (hf : d.unhashable? = some f) (hc : g.knows c = true) :
    g.lookUp c d = .error f := by
  rw [lookUp, hf]
  exact if_pos hc

theorem lookUp_of_unknown (hf : d.unhashable? = some f) (hc : g.knows c = false) :
    g.lookUp c d = .ok none := by
  rw [lookUp, hf]
  exact if_neg (by simp [hc])

/-- All that a look-up fails with is that the descriptor cannot be hashed. -/
theorem unhashable?_of_lookUp (h : g.lookUp c d = .error f) : d.unhashable? = some f := by
  unfold lookUp at h
  split at h
  · cases h
  · rename_i f' hf'
    split at h
    · cases h
      exact hf'
    · cases h

theorem enter_of_hashed (h : d.unhashed = none) (g : Registry) (c : Nat) (sites : List Site) :
    g.enter c d sites = g.remember c d.key sites := by
  rw [enter, Descriptor.unhashable?_of_hashed h]

theorem enter_of_unhashed (hf : d.unhashable? = some f) (g : Registry) (c : Nat)
    (sites : List Site) : g.enter c d sites = { g with attempted := g.attempted ++ [c] } := by
  rw [enter, hf]

end Registry

/-! ## What is installed -/

namespace Loom

section Install

variable (guard c : Nat) (cls : HostClass) (d : Descriptor)

/-- The sites are installed in order, up to the first method that cannot be assigned. -/
theorem sites_install (methods : List MethodDescription) (h : Host) :
    (install guard c cls d methods h).sites =
      (methods.takeWhile fun m => !cls.locked.contains m.name).map fun m =>
        ⟨cls.name, m.name, d⟩ := by
  induction methods generalizing h with
  | nil => rfl
  | cons m methods ih =>
    unfold install
    by_cases hm : cls.locked.contains m.name = true
    · rw [if_pos hm, List.takeWhile_cons_of_neg (by simp only [hm]; exact Bool.false_ne_true)]
      rfl
    · rw [if_neg hm, List.takeWhile_cons_of_pos (by simpa using hm), List.map_cons, ← ih]

/-- To install is to put a layer around the class for each site. -/
theorem host_install (methods : List MethodDescription) (h : Host) :
    (install guard c cls d methods h).host = h.modify c
      (HostClass.addLayers ((install guard c cls d methods h).sites.map fun s => ⟨s, guard⟩)) := by
  have nothing : ∀ h : Host, h = h.modify c (HostClass.addLayers []) := by
    intro h
    rw [HostClass.addLayers_nil, Host.modify_id]
  induction methods generalizing h with
  | nil => exact nothing h
  | cons m methods ih =>
    unfold install
    by_cases hm : cls.locked.contains m.name = true
    · rw [if_pos hm]
      exact nothing h
    · rw [if_neg hm]
      dsimp only
      rw [ih, Host.modify_modify]
      refine congrArg (h.modify c) (funext fun x => ?_)
      rw [List.map_cons, HostClass.addLayers_cons]
      rfl

/-- Installing fails if a method cannot be assigned. -/
theorem fault_install (methods : List MethodDescription) (h : Host) :
    (install guard c cls d methods h).fault =
      (methods.find? fun m => cls.locked.contains m.name).map fun m => .lockedMember m.name := by
  induction methods generalizing h with
  | nil => rfl
  | cons m methods ih =>
    unfold install
    by_cases hm : cls.locked.contains m.name = true
    · rw [if_pos hm, List.find?_cons_of_pos (by exact hm)]
      rfl
    · rw [if_neg hm, List.find?_cons_of_neg (by exact hm)]
      exact ih _

end Install

end Loom

namespace Descriptor

variable (d : Descriptor) (ch : LogChannel) (cls : HostClass)

/-- The sites that the first weaving of a descriptor into a class installs when reports go to a
channel: those of the descriptor, or none if the selection of the methods raises. -/
def firstSites : List Site :=
  match d.selected ch cls with
  | .ok _ => d.sitesOn cls
  | .error _ => []

def firstLayers (guard : Nat) : List Layer := (d.firstSites ch cls).map fun s => ⟨s, guard⟩

/-- What the first weaving comes to: the sites, unless the descriptor cannot be hashed, the
selection of the methods raises, a method cannot be assigned or the weaving cannot be reported. -/
def firstAnswer : Except Failure (List Site) :=
  match d.unhashable? with
  | some f => .error f
  | none =>
    match d.selected ch cls with
    | .error f => .error f
    | .ok methods =>
      match methods.find? fun m => cls.locked.contains m.name with
      | some m => .error (.lockedMember m.name)
      | none =>
        (ch.verdict (Loom.wovenRecord d cls.name (d.sitesOn cls).length)).map fun _ =>
          d.sitesOn cls

@[simp] theorem firstSites_addLayers (layers : List Layer) :
    d.firstSites ch (cls.addLayers layers) = d.firstSites ch cls := by
  rw [firstSites, selected_addLayers, sitesOn_addLayers, firstSites]

@[simp] theorem firstLayers_addLayers (layers : List Layer) (guard : Nat) :
    d.firstLayers ch (cls.addLayers layers) guard = d.firstLayers ch cls guard := by
  rw [firstLayers, firstSites_addLayers, firstLayers]

@[simp] theorem firstAnswer_addLayers (layers : List Layer) :
    d.firstAnswer ch (cls.addLayers layers) = d.firstAnswer ch cls := by
  rw [firstAnswer, selected_addLayers, sitesOn_addLayers]
  rfl

@[simp] theorem firstSites_unwoven : d.firstSites ch cls.unwoven = d.firstSites ch cls := by
  unfold firstSites selected sitesOn methodsOn
  rw [HostClass.declaredMethods_unwoven]
  rfl

theorem firstSites_subset : d.firstSites ch cls ⊆ d.sitesOn cls := by
  unfold firstSites
  split
  · exact List.Subset.refl _
  · exact List.nil_subset _

/-- The sites stand in the order in which the methods are declared. -/
theorem firstSites_sublist : ((d.firstSites ch cls).map Site.method).Sublist
    (cls.declaredMethods.map MethodDescription.name) := by
  unfold firstSites
  split
  · have htaken : ((d.methodsOn cls).takeWhile fun m => !cls.locked.contains m.name).Sublist
        cls.declaredMethods := (List.takeWhile_prefix _).sublist.trans List.filter_sublist
    rw [sitesOn, List.map_map]
    exact htaken.map MethodDescription.name
  · exact List.nil_sublist _

variable {d ch cls}

theorem firstSites_of_selected {methods : List MethodDescription}
    (h : d.selected ch cls = .ok methods) : d.firstSites ch cls = d.sitesOn cls := by
  rw [firstSites, h]

/-- What the first weaving returns are the sites that it installs. -/
theorem eq_of_firstAnswer {sites : List Site} (h : d.firstAnswer ch cls = .ok sites) :
    d.unhashed = none ∧ d.firstSites ch cls = sites ∧ d.sitesOn cls = sites := by
  unfold firstAnswer at h
  split at h
  · cases h
  · rename_i hhashed
    refine ⟨unhashable?_eq_none.mp hhashed, ?_⟩
    unfold firstSites
    split at h
    · cases h
    · rename_i methods hselected
      rw [hselected]
      split at h
      · cases h
      · cases hverdict : ch.verdict (Loom.wovenRecord d cls.name (d.sitesOn cls).length) with
        | ok _ =>
          rw [hverdict] at h
          cases h
          exact ⟨rfl, rfl⟩
        | error f =>
          rw [hverdict] at h
          cases h

end Descriptor

/-! ## Weaving -/

namespace Loom

variable {ch : LogChannel} {guard c : Nat} {cls : HostClass} {d : Descriptor} {l : Loom}
  {sites : List Site} {f : Failure}

/-- A weaving that has been attempted is not attempted again. -/
theorem weave_of_sites (hk : l.registry.lookUp c d = .ok (some sites)) :
    weave guard c d l = (.returned sites, l) := by
  rw [weave, hk]

theorem weave_of_refused (hk : l.registry.lookUp c d = .error f) :
    weave guard c d l = (.raised f, l) := by
  rw [weave, hk]

theorem weave_of_missing (hk : l.registry.lookUp c d = .ok none) (hc : l.host.class? c = none) :
    weave guard c d l = (.returned [], l) := by
  rw [weave, hk, hc]

/-- Something that settles settles on a loom, too. -/
theorem running_apply {α : Type} {x : Act Run α} {o : Except Failure α}
    (hx : Settles (LogsLike ch) x o) (hl : LogsLike ch l) :
    ∃ r, LogsLike ch r ∧ running x l = (Outcome.ofExcept o, { l with run := r }) := by
  obtain ⟨r, hrun, hr⟩ := hx l.run ⟨hl.handlers, hl.level⟩
  refine ⟨r, hr, ?_⟩
  unfold running within
  rw [hrun]

/-- To report a plain record and go on changes nothing but the run. -/
theorem report_apply {r : LogRecord} (hr : r.IsPlain) (hl : LogsLike ch l) {α : Type} (a : α) :
    ∃ run, LogsLike ch run ∧ (report r >>= fun _ => pure a : Act Loom α) l =
      (Outcome.ofExcept ((ch.verdict r).map fun _ => a), { l with run := run }) := by
  have hrun : LogsLike ch l.run := ⟨hl.handlers, hl.level⟩
  refine ⟨_, logsLike_logged (fun _ _ => rfl) hrun r, ?_⟩
  rw [bind_apply, report_of_plain hr, hl.verdict]
  cases ch.verdict r <;> rfl

/-- However the first weaving of a descriptor into a class ends, it puts the first sites of the
descriptor around the class and enters them. -/
theorem weave_first (guard : Nat) (hk : l.registry.lookUp c d = .ok none)
    (hc : l.host.class? c = some cls) (hl : LogsLike ch l) :
    ∃ r, LogsLike ch r ∧ weave guard c d l = (Outcome.ofExcept (d.firstAnswer ch cls),
      ⟨l.host.modify c (HostClass.addLayers (d.firstLayers ch cls guard)),
        l.registry.enter c d (d.firstSites ch cls), r⟩) := by
  obtain ⟨r, hr, hselected⟩ := running_apply (d.methodsFor_settles ch cls) hl
  rw [weave, hk, hc]
  dsimp only
  rw [hselected]
  unfold Descriptor.firstAnswer Descriptor.firstLayers Descriptor.firstSites
  cases hmethods : d.selected ch cls with
  | error f =>
    refine ⟨r, hr, ?_⟩
    rw [List.map_nil, HostClass.addLayers_nil, Host.modify_id]
    cases d.unhashable? <;> rfl
  | ok methods =>
    obtain rfl := Descriptor.eq_of_selected hmethods
    have hsites := sites_install guard c cls d (d.methodsOn cls) l.host
    have hhost := host_install guard c cls d (d.methodsOn cls) l.host
    have hfault := fault_install guard c cls d (d.methodsOn cls) l.host
    rw [hsites] at hhost
    change (install guard c cls d (d.methodsOn cls) l.host).sites = d.sitesOn cls at hsites
    dsimp only [Outcome.ofExcept]
    rw [hfault, hsites, hhost]
    cases d.unhashable? with
    | some f => exact ⟨r, hr, rfl⟩
    | none =>
      rw [Option.none_or]
      cases (d.methodsOn cls).find? fun m => cls.locked.contains m.name with
      | some m => exact ⟨r, hr, rfl⟩
      | none =>
        exact report_apply (LogRecord.wovenRecord_isPlain d cls.name _) ⟨hr.handlers, hr.level⟩
          (d.sitesOn cls)

/-- A weaving changes nothing or is a first one. -/
theorem weave_snd_cases (guard c : Nat) (d : Descriptor) (l : Loom) :
    (weave guard c d l).2 = l ∨ l.registry.lookUp c d = .ok none ∧ ∃ cls r,
      l.host.class? c = some cls ∧ (weave guard c d l).2 =
        ⟨l.host.modify c (HostClass.addLayers (d.firstLayers l.run.channel cls guard)),
          l.registry.enter c d (d.firstSites l.run.channel cls), r⟩ := by
  cases hk : l.registry.lookUp c d with
  | error f => exact .inl (by rw [weave_of_refused hk])
  | ok found =>
    cases found with
    | some sites => exact .inl (by rw [weave_of_sites hk])
    | none =>
      cases hc : l.host.class? c with
      | none => exact .inl (by rw [weave_of_missing hk hc])
      | some cls =>
        obtain ⟨r, -, hweave⟩ := weave_first guard hk hc (logsLike_channel (σ := Loom) l)
        exact .inr ⟨rfl, cls, r, rfl, congrArg Prod.snd hweave⟩

end Loom

end AspectAgent
