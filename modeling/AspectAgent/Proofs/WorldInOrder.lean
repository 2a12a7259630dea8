import AspectAgent.Proofs.ClassWalk
import AspectAgent.Proofs.Deployments
import AspectAgent.Proofs.Transparency
import AspectAgent.Proofs.WovenOnce

/-!
# A world in order

A world with one agent is in order if the agent is enabled, all methods can be assigned and no
handler raises. There a transformation and a hook return; they leave every class done that they are
for, which means that each descriptor is remembered that accepts the class, and they change no other
class. What has been woven stays, whatever is woven later.
-/

namespace AspectAgent

open Act Contract HostModule

variable {made : Nat → Matcher}

theorem HostClass.describe_of_unwoven_eq {cls cls' : HostClass} (h : cls.unwoven = cls'.unwoven) :
    cls.describe = cls'.describe := by
  show cls.unwoven.describe = cls'.unwoven.describe
  rw [h]

open HostClass

namespace World

/-- The world has one agent, which is enabled. Its accounts are complete, its descriptors and hooks
are its own, and no handler raises. -/
structure InOrder (made : Nat → Matcher) (w : World) : Prop where
  single : ∃ d, w.deployments = [d]
  enabled : (w.deployment 0).agent.config.enabled.truthy = true
  descriptors : ∀ d ∈ (w.deployment 0).agent.descriptors, d.MadeFrom made
  complete : (w.loom 0).Complete made
  safe : LogsSafely w
  hooks : ∀ h ∈ w.hooks, h.deployment = 0 ∧ h.module ∈ (w.deployment 0).hooked

/-- The key of every descriptor is remembered that accepts the class. -/
def IsDone (w : World) (c : Nat) : Prop :=
  ∀ cls, w.host.class? c = some cls → ∀ d ∈ (w.deployment 0).agent.descriptors,
    d.acceptsType cls = true → ∃ sites, (w.loom 0).registry.sites? c d.key = some sites

/-- Nothing is woven into classes but into some, and what was remembered still is. -/
structure Weaves (into : Nat → Prop) (w w' : World) : Prop where
  descriptors : (w'.deployment 0).agent.descriptors = (w.deployment 0).agent.descriptors
  unwoven : w'.host.unwoven = w.host.unwoven
  kept : ∀ c k sites, (w.loom 0).registry.sites? c k = some sites →
    (w'.loom 0).registry.sites? c k = some sites
  others : ∀ c, ¬into c → w'.host.class? c = w.host.class? c

namespace Weaves

variable {into into' : Nat → Prop} {w w' w'' : World} {c : Nat}

theorem refl (into : Nat → Prop) (w : World) : Weaves into w w :=
  ⟨rfl, rfl, fun _ _ _ hk => hk, fun _ _ => rfl⟩

theorem trans (h : Weaves into w w') (h' : Weaves into w' w'') : Weaves into w w'' where
  descriptors := h'.descriptors.trans h.descriptors
  unwoven := h'.unwoven.trans h.unwoven
  kept c k sites hk := h'.kept c k sites (h.kept c k sites hk)
  others c hc := (h'.others c hc).trans (h.others c hc)

theorem mono (h : Weaves into w w') (hinto : ∀ c, into c → into' c) : Weaves into' w w' where
  descriptors := h.descriptors
  unwoven := h.unwoven
  kept := h.kept
  others c hc := h.others c fun hmem => hc (hinto c hmem)

/-- What is done stays done. -/
theorem isDone (h : Weaves into w w') (hc : w.IsDone c) : w'.IsDone c := by
  intro cls' hcls' d hd haccepts
  obtain ⟨cls, hcls, hunwoven⟩ := class?_of_unwoven_eq h.unwoven.symm hcls'
  have hdescribe : cls.describe = cls'.describe := describe_of_unwoven_eq hunwoven
  have haccepts' : d.acceptsType cls = true := by
    rw [Descriptor.acceptsType, hdescribe]
    exact haccepts
  obtain ⟨sites, hk⟩ := hc cls hcls d (h.descriptors ▸ hd) haccepts'
  exact ⟨sites, h.kept c d.key sites hk⟩

end Weaves

/-- Something is woven, and the modules and what has been asked about them stay. Hooks that wait go
on waiting. -/
structure Hooks (into : Nat → Prop) (w w' : World) : Prop extends Weaves into w w' where
  importable : w'.importable = w.importable
  imported : w'.imported = w.imported
  hooked : (w'.deployment 0).hooked = (w.deployment 0).hooked
  waiting : ∀ n, 0 ∈ w.waitingFor n → 0 ∈ w'.waitingFor n

namespace Hooks

variable {into into' : Nat → Prop} {w w' w'' : World}

theorem refl (into : Nat → Prop) (w : World) : Hooks into w w :=
  ⟨.refl into w, rfl, rfl, rfl, fun _ => id⟩

theorem trans (h : Hooks into w w') (h' : Hooks into w' w'') : Hooks into w w'' where
  toWeaves := h.toWeaves.trans h'.toWeaves
  importable := h'.importable.trans h.importable
  imported := h'.imported.trans h.imported
  hooked := h'.hooked.trans h.hooked
  waiting n hn := h'.waiting n (h.waiting n hn)

theorem mono (h : Hooks into w w') (hinto : ∀ c, into c → into' c) : Hooks into' w w' :=
  { h with toWeaves := h.toWeaves.mono hinto }

end Hooks

variable {w : World}

/-! ## One agent -/

theorem InOrder.present (h : w.InOrder made) : 0 < w.deployments.length := by
  obtain ⟨d, hd⟩ := h.single
  simp [hd]

theorem InOrder.deployment_modify (h : w.InOrder made) (g : Deployment → Deployment) :
    (w.modifyDeployment 0 g).deployment 0 = g (w.deployment 0) :=
  World.deployment_modify h.present g

/-- A deployment may be changed but for the configuration of its agent and what the agent has woven.
-/
theorem InOrder.modifyDeployment (h : w.InOrder made) {g : Deployment → Deployment}
    (hconfig : (g (w.deployment 0)).agent.config = (w.deployment 0).agent.config)
    (hregistry : (g (w.deployment 0)).agent.registry = (w.deployment 0).agent.registry)
    (hds : ∀ d ∈ (g (w.deployment 0)).agent.descriptors, d.MadeFrom made)
    (hasked : (w.deployment 0).hooked ⊆ (g (w.deployment 0)).hooked) :
    (w.modifyDeployment 0 g).InOrder made := by
  have hdeployment := h.deployment_modify g
  refine ⟨?_, ?_, ?_, ?_, h.safe, fun x hx => ?_⟩
  · obtain ⟨d, hd⟩ := h.single
    exact ⟨g d, by rw [World.modifyDeployment, hd]; rfl⟩
  · rw [hdeployment, hconfig]
    exact h.enabled
  · rw [hdeployment]
    exact hds
  · rw [loom, hdeployment, hregistry]
    exact h.complete
  · rw [hdeployment]
    exact ⟨(h.hooks x hx).1, hasked (h.hooks x hx).2⟩

theorem InOrder.modify_weaves (h : w.InOrder made) {g : Deployment → Deployment}
    (hg : (g (w.deployment 0)).agent = (w.deployment 0).agent) (into : Nat → Prop) :
    Weaves into w (w.modifyDeployment 0 g) := by
  refine ⟨?_, rfl, fun c k sites hk => ?_, fun _ _ => rfl⟩
  · rw [h.deployment_modify, hg]
  · rw [loom, h.deployment_modify, hg]
    exact hk

/-- A transformation of a class returns, leaves the class done and changes no other. -/
theorem InOrder.transform (h : w.InOrder made) (hmade : ∀ n s, ((made n).test s).FailsOrdinarily)
    (c : Nat) : ∃ sites w', World.transform 0 c w = (.returned sites, w') ∧ w'.InOrder made ∧
      Hooks (· = c) w w' ∧ w'.IsDone c := by
  obtain ⟨sites, l, htransform, hcomplete, hsafe, hby⟩ :=
    h.complete.transform hmade h.descriptors h.safe c
  have hsame : l.host.unwoven = w.host.unwoven := by
    have hmeets := Loom.transform_sameClasses (w.deployment 0).agent c (w.loom 0)
    rw [MeetsAt, htransform] at hmeets
    exact hmeets
  have hsteps : Relation.ReflTransGen Loom.Step (w.loom 0) l := by
    have hmeets := Loom.transform_steps (w.deployment 0).agent c (w.loom 0)
    rw [MeetsAt, htransform] at hmeets
    exact hmeets
  have hrun : World.transform 0 c w = (.returned sites, setLoom 0 l w) := by
    rw [transform_apply, htransform]
  have hwoven : ∀ cls, w.host.class? c = some cls → ∀ e ∈ (w.deployment 0).agent.descriptors,
      e.acceptsType cls = true → ∃ sites, l.registry.sites? c e.key = some sites := by
    intro cls hcls e he haccepts
    refine hby.woven cls hcls e ?_
    rw [Agent.applied, if_pos h.enabled]
    exact List.mem_filter.mpr ⟨he, haccepts⟩
  have hdeployment := deployment_setLoom h.present l
  have hloom : (setLoom 0 l w).loom 0 = l := by
    rw [loom, hdeployment]
    rfl
  refine ⟨sites, setLoom 0 l w, hrun, ?_, ?_, ?_⟩
  · constructor
    · obtain ⟨d, hd⟩ := h.single
      exact ⟨_, by rw [setLoom, World.modifyDeployment, hd]; rfl⟩
    · rw [hdeployment]
      exact h.enabled
    · rw [hdeployment]
      exact h.descriptors
    · rw [hloom]
      exact hcomplete
    · exact hsafe
    · rw [hdeployment]
      exact h.hooks
  · refine ⟨⟨?_, hsame, fun k c sites hk => ?_, hby.others⟩, rfl, rfl, ?_, fun _ => id⟩
    · rw [hdeployment]
    · rw [hloom]
      exact Loom.sites?_of_steps hsteps hk
    · rw [hdeployment]
  rw [IsDone, hloom, hdeployment]
  intro cls' hcls' e he haccepts
  obtain ⟨cls, hcls, hunwoven⟩ := class?_of_unwoven_eq hsame.symm hcls'
  have hdescribe : cls.describe = cls'.describe := describe_of_unwoven_eq hunwoven
  refine hwoven cls hcls e he ?_
  rw [Descriptor.acceptsType, hdescribe]
  exact haccepts

theorem InOrder.change_run (h : w.InOrder made) {r : Run} (hr : LogsSafely r) :
    ({ w with run := r } : World).InOrder made :=
  ⟨h.single, h.enabled, h.descriptors, h.complete.run r, hr, h.hooks⟩

theorem InOrder.report (h : w.InOrder made) {r : LogRecord} (hr : r.IsPlain) (into : Nat → Prop) :
    ∃ w', AspectAgent.report r w = (.returned (), w') ∧ w'.InOrder made ∧ Hooks into w w' :=
  ⟨_, report_of_neverFails hr h.safe, h.change_run (LogChannel.NeverFails.logged h.safe r),
    ⟨⟨rfl, rfl, fun _ _ _ hk => hk, fun _ _ => rfl⟩, rfl, rfl, rfl, fun _ => id⟩⟩

/-! ## Hooks -/

/-- A hook returns, leaves every class done that its module reaches and changes no other. -/
theorem InOrder.onImport (h : w.InOrder made) (hmade : ∀ n s, ((made n).test s).FailsOrdinarily)
    (m : HostModule) : ∃ w', World.onImport 0 m w = (.returned (), w') ∧ w'.InOrder made ∧
      Hooks (m.Reaches w.host) w w' ∧ ∀ c, m.Reaches w.host c → w'.IsDone c := by
  have hvisit : ∀ c ∈ m.declaredClasses w.host, ∀ v, v.InOrder made →
      ∃ v', visit 0 c v = (.returned (), v') ∧ v'.InOrder made ∧ Hooks (m.Reaches w.host) v v' ∧
        v'.IsDone c := by
    intro c hc v hv
    obtain ⟨sites, v', hrun, hv', hhooks, hdone⟩ := hv.transform hmade c
    let g := fun d : Deployment => { d with sites := d.sites ++ sites }
    have hhooks' : Hooks (m.Reaches w.host) v' (v'.modifyDeployment 0 g) :=
      ⟨hv'.modify_weaves rfl _, rfl, rfl, by rw [hv'.deployment_modify], fun _ => id⟩
    refine ⟨_, bind_of_returned hrun, hv'.modifyDeployment rfl rfl hv'.descriptors (fun _ => id),
      Hooks.trans (hhooks.mono ?_) hhooks', hhooks'.isDone hdone⟩
    rintro _ rfl
    exact mem_declaredClasses.mp hc
  obtain ⟨w', hrun, hw', hhooks, hdone⟩ := forEach_returns (P := fun c v => v.IsDone c)
    (Hooks.refl _) (fun _ _ _ => Hooks.trans) (fun _ _ _ hv => hv.isDone) _ hvisit w h
  refine ⟨w', ?_, hw', hhooks, fun c hc => hdone c (mem_declaredClasses.mpr hc)⟩
  rw [onImport_apply]
  exact orElse_of_returned hrun

end World

end AspectAgent
