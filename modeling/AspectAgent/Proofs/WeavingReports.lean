import AspectAgent.Proofs.HookBookkeeping
import AspectAgent.Proofs.ImportSurvival
import AspectAgent.Proofs.SiteListings
import AspectAgent.Proofs.WeaveOnImport
import Mathlib.Data.List.Perm.Basic

/-!
# What is reported of weaving

What has been woven into a class is recorded three times: in the registry, in what a transformation
returns, and in the sites that the hooks have noted. The registry has just what has been put around
the class, but for what descriptors have put there that cannot be hashed. The report of a
transformation is told by the registry for each key of a descriptor: the sites of the key are listed
once for each selected descriptor that has it, but for a new one whose weaving fails. So the report
is exact if the selected descriptors differ and can be hashed, and no weaving of a new one fails.
The hooks note the reports on the classes that they transform.
-/

namespace AspectAgent

open Act Contract

/-! ## The keys of the registry -/

namespace Loom

/-- A registry stays keyed. -/
def keepsKeyed : Contract Loom where
  allows _ l l' := (∀ c, l.registry.Keyed c) → ∀ c, l'.registry.Keyed c
  refl _ _ h := h
  trans h h' hl := h' (h hl)

theorem weave_keepsKeyed (guard c : Nat) (d : Descriptor) : keepsKeyed.Meets (weave guard c d) := by
  intro l hl c'
  rcases weave_snd_cases guard c d l with hsame | ⟨hk, cls, r, -, hweave⟩
  · rw [hsame]
    exact hl c'
  · rw [hweave]
    exact (hl c').enter hk

theorem transform_keepsKeyed (a : Agent) (c : Nat) : keepsKeyed.Meets (a.transform c) :=
  transform_meets ⟨fun _ _ _ _ h => h, fun guard d => weave_keepsKeyed guard c d⟩ a

end Loom

namespace World

variable {i c : Nat} {w w' : World} {cls : HostClass}

/-- The registry of a deployment stays keyed. -/
def keepsKeyed (i : Nat) : Contract World where
  allows _ w w' := (∀ c, (w.deployment i).agent.registry.Keyed c) →
    ∀ c, (w'.deployment i).agent.registry.Keyed c
  refl _ _ h := h
  trans h h' hw := h' (h hw)

theorem keepsKeyed_of_eq {b : Bool}
    (h : (w'.deployment i).agent.registry = (w.deployment i).agent.registry) :
    (keepsKeyed i).allows b w w' := by
  intro hw c
  rw [h]
  exact hw c

theorem weaving_keepsKeyed {α : Type} {x : Act Loom α} (hx : Loom.keepsKeyed.Meets x) (j : Nat) :
    (keepsKeyed i).Meets (weaving j x) := by
  intro w hw c
  show ((setLoom j (x (w.loom j)).2 w).deployment i).agent.registry.Keyed c
  rw [registry_setLoom]
  split
  · rename_i hj
    obtain ⟨rfl, -⟩ := hj
    exact hx (w.loom j) hw c
  · exact hw c

theorem transform_keepsKeyed (j c : Nat) : (keepsKeyed i).Meets (transform j c) :=
  meets_read fun w => weaving_keepsKeyed (Loom.transform_keepsKeyed _ c) j w

theorem weave_keepsKeyed (j c : Nat) (d : Descriptor) : (keepsKeyed i).Meets (weave j c d) :=
  meets_read fun w => weaving_keepsKeyed (Loom.weave_keepsKeyed _ c d) j w

theorem keepsKeyed_allows (i : Nat) : AllowsInstallations (keepsKeyed i) where
  transform := transform_keepsKeyed
  run _ _ _ _ := keepsKeyed_of_eq rfl
  sites j sites w := keepsKeyed_of_eq (part_modifyDeployment (fun d => d.agent.registry)
    (g := fun d => { d with sites := d.sites ++ sites }) (fun _ => rfl) w j i)
  imported _ _ := keepsKeyed_of_eq rfl
  released _ _ := keepsKeyed_of_eq rfl
  marked j hooked w := keepsKeyed_of_eq (part_modifyDeployment (fun d => d.agent.registry)
    (g := fun d => { d with hooked := d.hooked.union hooked }) (fun _ => rfl) w j i)
  added _ _ := keepsKeyed_of_eq rfl

theorem register_registry (i j : Nat) (m : InstrumentationModule) (w : World) :
    ((World.register j m w).2.deployment i).agent.registry = (w.deployment i).agent.registry := by
  obtain ⟨r, hrun | ⟨a, ha, hrun⟩⟩ := World.register_cases j m w
  · rw [hrun]
    rfl
  · have hregistry : a.registry = (w.deployment j).agent.registry := by
      rcases ha with rfl | rfl <;> rfl
    rw [hrun, deployment_modifyDeployment]
    split
    · rename_i hj
      obtain ⟨rfl, -⟩ := hj
      exact hregistry
    · rfl

theorem Occurs.keepsKeyed (ho : Occurs w w') (i : Nat)
    (hw : ∀ c, (w.deployment i).agent.registry.Keyed c) :
    ∀ c, (w'.deployment i).agent.registry.Keyed c := by
  cases ho with
  | register j m => exact keepsKeyed_of_eq (b := true) (register_registry i j m w) hw
  | install j => exact installHooks_meets (keepsKeyed_allows i) j w hw
  | importing name => exact importModule_meets (keepsKeyed_allows i).toAllowsImports name w hw
  | transform j c => exact transform_keepsKeyed j c w hw
  | weave j c d => exact weave_keepsKeyed j c d w hw
  | configure j c =>
    exact keepsKeyed_of_eq (b := true) (part_modifyDeployment (fun d => d.agent.registry)
      (g := fun d => { d with agent := { d.agent with config := c } }) (fun _ => rfl) w j i) hw
  | deploy c diagnostics =>
    exact keepsKeyed_of_eq (b := true)
      (part_deploy (fun d => d.agent.registry) (fun _ => rfl) w i) hw
  | outside host importable run => exact hw

/-- In every history that begins without anything woven, what a deployment has woven it has under
the keys of its descriptors. -/
theorem keyed_of_occurs {w₀ : World} (hempty : (w₀.deployment i).agent.registry.entries = [])
    (hw : Relation.ReflTransGen Occurs w₀ w) (c : Nat) :
    (w.deployment i).agent.registry.Keyed c := by
  induction hw generalizing c with
  | refl => exact ⟨by simp [hempty], by simp [hempty]⟩
  | tail _ ho ih => exact ho.keepsKeyed i ih c

/-! ## Reports and the registry -/

/-- What a deployment has woven into a class. -/
def sitesOn (i : Nat) (w : World) (c : Nat) : List Site :=
  (w.deployment i).agent.registry.sitesOf c

/-- What of it belongs to the descriptors that are selected for the class. -/
def selectedSites (i : Nat) (w : World) (c : Nat) : List Site :=
  match w.host.class? c with
  | none => []
  | some cls => (w.sitesOn i c).filter fun s =>
    s.descriptor.key ∈ ((w.deployment i).agent.applied cls).map Descriptor.key

/-- How often a report on a class lists the sites of a key. -/
def listings (ch : LogChannel) (i : Nat) (w : World) (c : Nat) (cls : HostClass)
    (k : DescriptorKey) : Nat :=
  (w.deployment i).agent.registry.listings ch c cls ((w.deployment i).agent.applied cls) k

/-- No two of the selected descriptors are the same, all can be hashed, and no weaving of a new one
fails. -/
structure ListsOnce (ch : LogChannel) (i : Nat) (w : World) (c : Nat) (cls : HostClass) :
    Prop where
  keys : (((w.deployment i).agent.applied cls).map Descriptor.key).Nodup
  hashed : ∀ d ∈ (w.deployment i).agent.applied cls, d.unhashed = none
  woven : ∀ d ∈ (w.deployment i).agent.registry.fresh c ((w.deployment i).agent.applied cls),
    d.isReported ch cls = true

/-- How a report on a class stands to what has been woven. The registry has got what descriptors
have put around the class that can be hashed. For each key the report lists what is woven under it a
number of times, so it agrees with what is woven for the selected descriptors just if those numbers
are one. -/
structure Accounts (ch : LogChannel) (i c : Nat) (cls : HostClass) (w w' : World)
    (report : List Site) : Prop where
  installed : ∃ new : List Site, w'.host.class? c =
      some (cls.addLayers (new.map fun s => ⟨s, (w.deployment i).agent.guard⟩)) ∧
    w'.sitesOn i c = w.sitesOn i c ++ new.filter fun s => s.descriptor.isHashed
  listed : ∀ k, (report.filter fun s => s.descriptor.key = k) = (List.replicate
    (w.listings ch i c cls k) ((w'.sitesOn i c).filter fun s => s.descriptor.key = k)).flatten
  agrees : report.Perm (w'.selectedSites i c) ↔ ∀ d ∈ (w.deployment i).agent.applied cls,
    ((w'.sitesOn i c).filter fun s => s.descriptor.key = d.key) ≠ [] →
      w.listings ch i c cls d.key = 1

variable {ch : LogChannel}

theorem Accounts.perm_of_listsOnce {report : List Site} (h : Accounts ch i c cls w w' report)
    (honce : w.ListsOnce ch i c cls) : report.Perm (w'.selectedSites i c) :=
  h.agrees.mpr fun _ hd _ => Registry.listings_eq_one honce.keys honce.hashed honce.woven hd

/-- If a transformation returns, what has been woven accounts for the report. -/
theorem HasWoven.accounts (h : HasWoven ch i c w w') (hc : w.host.class? c = some cls)
    (hcan : w.faultOn? ch i c = none) (hkeyed : (w.deployment i).agent.registry.Keyed c)
    (happlied : ∀ cls, (w'.deployment i).agent.applied cls = (w.deployment i).agent.applied cls) :
    Accounts ch i c cls w w' (w.reportOn ch i c) := by
  obtain ⟨report, hreport⟩ := weavingOn_isOk_iff.mpr hcan
  have hweaving : w.weavingOn ch i c = (w.deployment i).agent.registry.turns ch c cls
      ((w.deployment i).agent.applied cls) := by
    unfold weavingOn at hreport ⊢
    rw [hc] at hreport ⊢
    exact Agent.weaving_of_isOk hreport
  have hlist := reportOn_of_ok hreport
  rw [hweaving] at hreport
  have hsites : w'.sitesOn i c = ((w.deployment i).agent.registry.turns ch c cls
      ((w.deployment i).agent.applied cls)).registry.sitesOf c := by
    rw [← hweaving]
    exact h.registry.sitesOf_eq
  have hlisted : ∀ k, (report.filter fun s => s.descriptor.key = k) = (List.replicate
      (w.listings ch i c cls k)
        ((w'.sitesOn i c).filter fun s => s.descriptor.key = k)).flatten := by
    intro k
    rw [hsites]
    exact Registry.filter_turns hkeyed hreport k
  have hothers : ∀ k, k ∉ ((w.deployment i).agent.applied cls).map Descriptor.key →
      w.listings ch i c cls k = 0 := by
    intro k hk
    have hnone : ((((w.deployment i).agent.applied cls).filter Descriptor.isHashed).countP
        fun d => d.key = k) = 0 := by
      refine List.countP_eq_zero.mpr fun d hd => ?_
      have hne : d.key ≠ k := fun heq =>
        hk (heq ▸ List.mem_map_of_mem (List.mem_of_mem_filter hd))
      simpa using hne
    rw [listings, Registry.listings, hnone, Nat.zero_sub]
  have hclass := h.class?
  rw [hc, hweaving] at hclass
  have hselected : w'.selectedSites i c = (w'.sitesOn i c).filter fun s =>
      s.descriptor.key ∈ ((w.deployment i).agent.applied cls).map Descriptor.key := by
    rw [selectedSites, hclass]
    dsimp only [Option.map_some]
    rw [happlied]
    rfl
  rw [hlist]
  refine ⟨⟨_, hclass, hsites.trans (Registry.sitesOf_turns ..)⟩, hlisted, ?_⟩
  rw [hselected, perm_filter_keys_iff hlisted hothers, List.forall_mem_map]

/-! ## Hooks -/

/-- The classes before the first that cannot be transformed. -/
structure UpToFault (ch : LogChannel) (i : Nat) (w : World) (cs before : List Nat) : Prop where
  first : before <+: cs
  can : ∀ c ∈ before, w.CanTransform ch i c
  fault : ∀ c after, cs = before ++ c :: after → ¬w.CanTransform ch i c

theorem upToFault_beforeFault (ch : LogChannel) (i : Nat) (w : World) (cs : List Nat) :
    UpToFault ch i w cs (w.beforeFault ch i cs) where
  first := List.takeWhile_prefix _
  can c hc := by
    have hnone := List.all_eq_true.mp List.all_takeWhile c hc
    exact faultOn?_eq_none_iff.mp (Option.isNone_iff_eq_none.mp hnone)
  fault c after heq hcan := by
    have hdrop : cs.dropWhile (fun c => (w.faultOn? ch i c).isNone) = c :: after :=
      List.append_cancel_left (List.takeWhile_append_dropWhile.trans heq)
    have hhead := List.head?_dropWhile_not (fun c => (w.faultOn? ch i c).isNone) cs
    rw [hdrop, List.head?_cons] at hhead
    dsimp only at hhead
    rw [faultOn?_eq_none_iff.mpr hcan] at hhead
    cases hhead

theorem beforeFault_of_can {cs : List Nat} (h : ∀ c ∈ cs, w.CanTransform ch i c) :
    w.beforeFault ch i cs = cs :=
  List.takeWhile_eq_self_iff.mpr fun c hc =>
    Option.isNone_iff_eq_none.mpr (faultOn?_eq_none_iff.mpr (h c hc))

/-- The hooks of a deployment fire for modules one after the other, however each of them ends. -/
def fireAll (i : Nat) (ms : List HostModule) (w : World) : World :=
  ms.foldl (fun w m => (onImport i m w).2) w

/-- The classes of some modules, each up to the first of its module that cannot be transformed. -/
def notedBy (ch : LogChannel) (i : Nat) (w : World) (ms : List HostModule) : List Nat :=
  ms.flatMap fun m => w.beforeFault ch i (m.declaredClasses w.host)

/-- Hooks of different modules note the classes of each of them up to the first that cannot be
transformed. -/
theorem fireAll_notes {ms : List HostModule} (hms : (ms.map HostModule.name).Nodup)
    (hi : i < w.deployments.length) (hw : LogsLike ch w) :
    Notes ch i (w.notedBy ch i ms) (ms.flatMap fun m => m.declaredClasses w.host) w
      (fireAll i ms w) := by
  induction ms generalizing w with
  | nil => exact .of_run ch i w w.run
  | cons m ms ih =>
    obtain ⟨hm, hms⟩ := List.nodup_cons.mp hms
    obtain ⟨v, hv, hnotes, hrun⟩ := onImport_notes m hi hw
    have hrest := ih hms (hnotes.length ▸ hi) hv
    have hclasses : ∀ m' : HostModule, m'.declaredClasses v.host = m'.declaredClasses w.host :=
      fun m' => HostModule.declaredClasses_of_unwoven_eq hnotes.unwoven m'
    -- a class belongs to one module
    have hother : ∀ m' ∈ ms, ∀ c ∈ m'.declaredClasses w.host, c ∉ m.declaredClasses w.host := by
      intro m' hm' c hc' hc
      obtain ⟨cls, hcls, hname⟩ := (HostModule.mem_declaredClasses.mp hc).owns
      obtain ⟨cls', hcls', hname'⟩ := (HostModule.mem_declaredClasses.mp hc').owns
      cases hcls.symm.trans hcls'
      exact hm (List.mem_map.mpr ⟨m', hm', hname'.symm.trans hname⟩)
    have hnoted : v.notedBy ch i ms = w.notedBy ch i ms := by
      refine List.flatMap_congr fun m' hm' => ?_
      rw [hclasses]
      exact beforeFault_congr fun c hc => hnotes.faultOn?_eq (hother m' hm' c hc)
    rw [hnoted] at hrest
    simp only [hclasses] at hrest
    have hfired : fireAll i (m :: ms) w = fireAll i ms v := by
      rw [fireAll, List.foldl_cons, hrun]
      rfl
    rw [hfired]
    refine hnotes.trans hrest (fun c hc hmem => ?_) fun c hc => ?_
    · obtain ⟨m', hm', hc'⟩ := List.mem_flatMap.mp hmem
      exact hother m' hm' c hc' ((List.takeWhile_prefix _).subset hc)
    · obtain ⟨m', hm', hc'⟩ := List.mem_flatMap.mp hc
      exact hother m' hm' c ((List.takeWhile_prefix _).subset hc')

/-- **Reports of weaving.** Whatever has been registered, woven, installed and imported, a
transformation returns just if the class can be transformed, and the registry accounts for what it
returns: each site is listed once if no two of the selected descriptors are the same, all can be
hashed and no weaving of a new one fails. When the hooks of some modules have fired, they have noted
what they would report on the classes up to the first that cannot be transformed, the registry
accounts for it, and nothing is woven into the classes of other modules. So each site is noted once
that the hooks have installed, if all classes can be transformed, and each report lists its sites
once. -/
theorem weaving_reports {w₀ : World} (hempty : (w₀.deployment i).agent.registry.entries = [])
    (hw : Relation.ReflTransGen Occurs w₀ w) (hi : i < w.deployments.length) :
    let ch := w.run.channel
    (∀ c cls, w.host.class? c = some cls →
      ((∃ report, (transform i c w).1 = .returned report) ↔ w.CanTransform ch i c) ∧
      ∀ report w', transform i c w = (.returned report, w') →
        Accounts ch i c cls w w' report ∧
          (w.ListsOnce ch i c cls → report.Perm (w'.selectedSites i c))) ∧
    ∀ ms : List HostModule, (ms.map HostModule.name).Nodup →
      let classes := ms.flatMap fun m => m.declaredClasses w.host
      let w' := fireAll i ms w
      ((∀ m ∈ ms, UpToFault ch i w (m.declaredClasses w.host)
          (w.beforeFault ch i (m.declaredClasses w.host))) ∧
        (w'.deployment i).sites =
          (w.deployment i).sites ++ (w.notedBy ch i ms).flatMap (w.reportOn ch i) ∧
        ∀ c ∈ w.notedBy ch i ms, ∀ cls, w.host.class? c = some cls →
          Accounts ch i c cls w w' (w.reportOn ch i c)) ∧
      (∀ c, c ∉ classes → w'.sitesOn i c = w.sitesOn i c) ∧
      ((∀ c ∈ classes, w.CanTransform ch i c) →
        (∀ c ∈ classes, ∀ cls, w.host.class? c = some cls → w.ListsOnce ch i c cls) →
        (w'.deployment i).sites.Perm
          ((w.deployment i).sites ++ classes.flatMap (w'.selectedSites i))) := by
  intro ch
  have hlogs : LogsLike ch w := logsLike_channel w
  have hkeyed := keyed_of_occurs hempty hw
  refine ⟨fun c cls hc => ?_, fun ms hms => ?_⟩
  · obtain ⟨v, -, hnotes, hwoven, hrun⟩ := transform_notes c hi hlogs
    rw [hrun, ← faultOn?_eq_none_iff]
    cases hanswer : (w.weavingOn ch i c).answer with
    | error f =>
      rw [faultOn?_of_error hanswer]
      refine ⟨iff_of_false ?_ ?_, ?_⟩
      · rintro ⟨_, ⟨⟩⟩
      · rintro ⟨⟩
      · rintro _ _ ⟨⟩
    | ok sites =>
      have hfault := faultOn?_of_ok hanswer
      refine ⟨iff_of_true ⟨sites, rfl⟩ hfault, ?_⟩
      rintro _ _ ⟨⟩
      have haccounts := hwoven.accounts hc hfault (hkeyed c) hnotes.applied
      rw [reportOn_of_ok hanswer] at haccounts
      exact ⟨haccounts, haccounts.perm_of_listsOnce⟩
  · intro classes w'
    have hnotes := fireAll_notes hms hi hlogs
    have haccounts : ∀ c ∈ w.notedBy ch i ms, ∀ cls, w.host.class? c = some cls →
        Accounts ch i c cls w w' (w.reportOn ch i c) := by
      intro c hc cls hcls
      obtain ⟨m, -, hmem⟩ := List.mem_flatMap.mp hc
      have hcan := (upToFault_beforeFault ch i w _).can c hmem
      exact (hnotes.woven c hc).accounts hcls (faultOn?_eq_none_iff.mpr hcan) (hkeyed c)
        hnotes.applied
    refine ⟨⟨fun m _ => upToFault_beforeFault ch i w _, hnotes.sites, haccounts⟩,
      fun c hc => (hnotes.others c hc).registry.sitesOf_eq, fun hcan honce => ?_⟩
    have hall : w.notedBy ch i ms = classes := List.flatMap_congr fun m hm =>
      beforeFault_of_can fun c hc => hcan c (List.mem_flatMap.mpr ⟨m, hm, hc⟩)
    rw [hall] at haccounts
    rw [hnotes.sites, hall]
    refine List.Perm.append_left _ (List.Perm.flatMap_left classes fun c hc => ?_)
    obtain ⟨m, hm, hmem⟩ := List.mem_flatMap.mp hc
    obtain ⟨cls, hcls, -⟩ := (HostModule.mem_declaredClasses.mp hmem).owns
    exact (haccounts c hc cls hcls).perm_of_listsOnce (honce c hc cls hcls)

theorem nested_of_occurs :
    Relation.ReflTransGen Occurs (deploy {} none {}) (World.register 0 .onSteps nested).2 := by
  have hnested : Occurs (deploy {} none {}) nested :=
    .outside nested.host nested.importable nested.run (deploy {} none {})
  exact .tail (.single hnested) (.register 0 .onSteps nested)

/-- Two classes, one nested in the other, with one descriptor for both. -/
theorem weaving_reports_of_nested :
    let w := (World.register 0 .onSteps nested).2
    let w' := fireAll 0 [.nested] w
    Relation.ReflTransGen Occurs (deploy {} none {}) w ∧ (w'.deployment 0).sites.length = 2 ∧
      (w'.deployment 0).sites.Perm ([1, 0].flatMap (w'.selectedSites 0)) := by
  intro w w'
  have hdeployed : 0 < w.deployments.length := Nat.one_pos
  obtain ⟨-, hhooks⟩ := weaving_reports (i := 0) rfl nested_of_occurs hdeployed
  obtain ⟨-, -, hexact⟩ := hhooks [.nested] (List.nodup_singleton _)
  have hclasses : ([HostModule.nested].flatMap fun m => m.declaredClasses w.host) = [1, 0] := by
    decide +kernel
  have hfails : ∀ c ∈ [1, 0], ∀ cls ∈ w.host.class? c,
      ∀ d ∈ (w.deployment 0).agent.descriptors, d.FailsOrdinarilyOn cls := by decide +kernel
  have hcan : ∀ c ∈ [1, 0], w.CanTransform w.run.channel 0 c := by
    have hnever : w.run.channel.NeverFails := fun _ hh => absurd hh List.not_mem_nil
    have hordinary : w.run.channel.FailsOrdinarily := fun _ hh => absurd hh List.not_mem_nil
    exact fun c hc cls hcls _ => .of_warnings hordinary (hfails c hc cls hcls)
      (fun r _ => LogChannel.verdict_of_neverFails hnever r) _
  have honce : ∀ c ∈ [1, 0], ∀ cls ∈ w.host.class? c,
      (((w.deployment 0).agent.applied cls).map Descriptor.key).Nodup ∧
      (∀ d ∈ (w.deployment 0).agent.applied cls, d.unhashed.isNone = true) ∧
      ∀ d ∈ (w.deployment 0).agent.registry.fresh c ((w.deployment 0).agent.applied cls),
        d.isReported w.run.channel cls = true := by decide +kernel
  have hnone : (w.deployment 0).sites = [] := rfl
  rw [hclasses, hnone, List.nil_append] at hexact
  refine ⟨nested_of_occurs, by decide +kernel, hexact hcan fun c hc cls hcls => ?_⟩
  obtain ⟨hkeys, hhashed, hwoven⟩ := honce c hc cls hcls
  exact ⟨hkeys, fun d hd => Option.isNone_iff_eq_none.mp (hhashed d hd), hwoven⟩

/-- A weaving that fails is not reported, though a site has been installed; and the site of two
equal descriptors is reported twice. -/
theorem report_inexact_of_faulty :
    let again := { InstrumentationModule.onSteps with name := "again" }
    let repeated := (World.register 0 again (World.register 0 .onSteps nested).2).2
    (∃ report, (transform 0 0 (faulty none)).1 = .returned report ∧
      ¬report.Perm ((transform 0 0 (faulty none)).2.selectedSites 0 0)) ∧
    ∃ report, (transform 0 1 repeated).1 = .returned report ∧
      ¬report.Perm ((transform 0 1 repeated).2.selectedSites 0 1) := by
  intro again repeated
  refine ⟨⟨_, rfl, fun h => ?_⟩, _, rfl, fun h => ?_⟩
  · exact absurd h.length_eq (by decide +kernel)
  · exact absurd h.length_eq (by decide +kernel)

end World

end AspectAgent
