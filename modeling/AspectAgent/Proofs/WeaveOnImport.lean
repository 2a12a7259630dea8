import AspectAgent.Proofs.ImportHooks
import Mathlib

/-!
# Weaving on import

Whatever has happened to a host with one agent, be it that modules of descriptors were registered,
hooks were installed, modules were imported or classes were transformed, in any order, the world is
in order and the hooks of modules that have been asked about await the import. So whenever a hook
fires, all is woven in its module when the import returns, or the installation: each class that the
module reaches has every descriptor that accepts it, once around each method that the descriptor
accepts. Classes of other modules are left alone. Descriptors must be such that they can be hashed:
one that cannot is not woven into a class into which another has been woven.
-/

namespace AspectAgent

open Act HostModule

variable {made : Nat → Matcher}

/-- A registration leaves the agent as it is or adds the module. -/
theorem Agent.register_cases (a : Agent) (m : InstrumentationModule) {r : Run}
    (hr : LogsSafely r) : ∃ o r', a.register m r = (o, r') ∧ LogsSafely r' ∧
      ∀ accepted a', o = .returned (accepted, a') → a' = a ∨ a' = a.add m := by
  unfold Agent.register
  split
  · have hreport := report_of_neverFails (disabledRecord_isPlain m.name) hr
    refine ⟨_, _, bind_of_returned hreport, LogChannel.NeverFails.logged hr _, ?_⟩
    rintro _ _ ⟨⟩
    exact .inl rfl
  · split
    · exact ⟨_, r, rfl, hr, nofun⟩
    · refine ⟨_, r, rfl, hr, ?_⟩
      rintro _ _ ⟨⟩
      exact .inr rfl

namespace World

variable {w w' : World} {m : HostModule}

/-! ## What may happen -/

/-- What happens to a host with one agent: a module of descriptors is registered, hooks are
installed, a module is imported, a class is transformed; or a class is declared whose members can be
assigned, a module is made importable, or something runs that leaves no failing handler. -/
inductive Event (made : Nat → Matcher) : World → World → Prop where
  | register (m : InstrumentationModule) (hm : ∀ d ∈ m.descriptors, d.MadeFrom made) (w : World) :
      Event made w (World.register 0 m w).2
  | install (w : World) : Event made w (installHooks 0 w).2
  | importing (name : String) (w : World) : Event made w (importModule name w).2
  | transform (c : Nat) (w : World) : Event made w (World.transform 0 c w).2
  | declare {w : World} {d : ClassDeclaration} {cls : HostClass} {host : Host}
      (hd : w.host.declare d = .ok (cls, host)) (hfree : d.locked = []) :
      Event made w { w with host := host }
  | provide (m : HostModule) (w : World) : Event made w (addModule m w)
  | run {r : Run} (hr : LogsSafely r) (w : World) : Event made w { w with run := r }

theorem InOrder.deploy {config : AgentConfig} {r : Run} (hon : config.enabled.truthy = true)
    (hr : LogsSafely r) : (World.deploy config none { run := r }).InOrder made where
  single := ⟨_, rfl⟩
  enabled := hon
  descriptors := nofun
  complete := by
    refine ⟨Loom.consistent_of_steps .refl, fun c cls hc => ?_, fun c cls k sites hc => ?_⟩ <;>
      exact absurd hc nofun
  safe := hr
  hooks := nofun

theorem InOrder.register (h : w.InOrder made) (ha : w.Awaits) {m : InstrumentationModule}
    (hm : ∀ d ∈ m.descriptors, d.MadeFrom made) :
    (World.register 0 m w).2.InOrder made ∧ (World.register 0 m w).2.Awaits := by
  obtain ⟨o, r, hrun, hr, hagent⟩ := (w.deployment 0).agent.register_cases m h.safe
  have hsafe : ({ w with run := r } : World).InOrder made := h.change_run hr
  rw [register_apply, hrun]
  rcases o with ⟨accepted, a⟩ | f | _
  · have hdescriptors : ∀ d ∈ a.descriptors, d.MadeFrom made := by
      intro d hd
      rcases hagent accepted a rfl with rfl | rfl
      · exact h.descriptors d hd
      · exact (List.mem_append.mp hd).elim (h.descriptors d) (hm d)
    have hkept : a.config = (w.deployment 0).agent.config ∧
        a.registry = (w.deployment 0).agent.registry := by
      rcases hagent accepted a rfl with rfl | rfl <;> exact ⟨rfl, rfl⟩
    let g := fun d : Deployment => { d with agent := a }
    have hdeployment : (({ w with run := r } : World).modifyDeployment 0 g).deployment 0 =
        g (w.deployment 0) := hsafe.deployment_modify g
    refine ⟨hsafe.modifyDeployment (g := g) hkept.1 hkept.2 hdescriptors fun _ => id, ?_⟩
    intro n hn
    have hn' : n ∈ (w.deployment 0).hooked := by
      have hsame := congrArg Deployment.hooked hdeployment
      exact hsame ▸ hn
    exact ha n hn'
  · exact ⟨hsafe, ha⟩
  · exact ⟨hsafe, ha⟩

theorem Hooks.awaits {into : Nat → Prop} (h : Hooks into w w') (ha : w.Awaits) : w'.Awaits := by
  intro n hn hnone
  rw [h.hooked] at hn
  rw [h.imported] at hnone
  exact h.waiting n (ha n hn hnone)

theorem Installs.awaits {new : NameSet} (h : Installs new w w') (ha : w.Awaits) : w'.Awaits := by
  intro n hn hnone
  rw [h.hooked] at hn
  rcases NameSet.mem_union.mp hn with hn | hn
  · rw [h.imported] at hnone
    exact h.waiting n (ha n hn hnone)
  · exact (h.served n hn).1 hnone

/-- Each event keeps the world in order and lets the hooks wait. -/
theorem Event.keeps (he : Event made w w') (hmade : ∀ n s, ((made n).test s).FailsOrdinarily)
    (h : w.InOrder made) (ha : w.Awaits) : w'.InOrder made ∧ w'.Awaits := by
  cases he with
  | register m hm => exact h.register ha hm
  | install =>
    obtain ⟨v, hrun, hv, hinstalls⟩ := h.installHooks hmade
    rw [hrun]
    exact ⟨hv, hinstalls.awaits ha⟩
  | importing name =>
    obtain ⟨hv, hwaits, -⟩ := h.importModule ha hmade name
    exact ⟨hv, hwaits⟩
  | transform c =>
    obtain ⟨sites, v, hrun, hv, hhooks, -⟩ := h.transform hmade c
    rw [hrun]
    exact ⟨hv, hhooks.awaits ha⟩
  | declare hd hfree =>
    exact ⟨⟨h.single, h.enabled, h.descriptors, h.complete.declare hd hfree, h.safe, h.hooks⟩, ha⟩
  | provide m =>
    exact ⟨⟨h.single, h.enabled, h.descriptors, h.complete, h.safe, h.hooks⟩, ha⟩
  | run hr => exact ⟨h.change_run hr, ha⟩

theorem keeps_of_events {config : AgentConfig} {r : Run}
    (hmade : ∀ n s, ((made n).test s).FailsOrdinarily) (hon : config.enabled.truthy = true)
    (hr : LogsSafely r)
    (hw : Relation.ReflTransGen (Event made) (World.deploy config none { run := r }) w) :
    w.InOrder made ∧ w.Awaits := by
  induction hw with
  | refl => exact ⟨.deploy hon hr, nofun⟩
  | tail _ he ih => exact he.keeps hmade ih.1 ih.2

/-! ## What is woven -/

/-- All is woven in a module: each class that it reaches has every descriptor that accepts the
class, once around each method that the descriptor accepts. -/
def Covers (w : World) (m : HostModule) : Prop :=
  ∀ c, m.Reaches w.host c → ∃ cls, w.host.class? c = some cls ∧
    ∀ d ∈ (w.deployment 0).agent.descriptors, d.acceptsType cls = true → d.WovenOnce cls

/-- All is woven in some modules, and nothing in the classes of others. -/
structure WeavesIn (modules : HostModule → Prop) (w w' : World) : Prop where
  covers : ∀ m, modules m → w'.Covers m
  only : Weaves (fun c => ∃ m, modules m ∧ Owns w.host m.name c) w w'

theorem InOrder.covers (h : w.InOrder made) (hdone : ∀ c, m.Reaches w.host c → w.IsDone c) :
    w.Covers m := by
  intro c hc
  obtain ⟨cls, hcls, -⟩ := hc.owns
  refine ⟨cls, hcls, fun d hd haccepts => ?_⟩
  obtain ⟨sites, hk⟩ := hdone c hc cls hcls d hd haccepts
  exact h.complete.wovenOnce hcls (h.descriptors d hd) hk

/-- If what some modules reach is done, and nothing else has changed, all is woven in them. -/
theorem InOrder.weavesIn {modules : HostModule → Prop} (h : w'.InOrder made)
    (hweaves : Weaves (fun c => ∃ m, modules m ∧ m.Reaches w.host c) w w')
    (hdone : ∀ m, modules m → ∀ c, m.Reaches w.host c → w'.IsDone c) : WeavesIn modules w w' where
  covers m hm := h.covers fun c hc =>
    hdone m hm c (reaches_of_unwoven_eq hweaves.unwoven.symm hc)
  only := hweaves.mono fun _ ⟨m, hm, hc⟩ => ⟨m, hm, hc.owns⟩

/-- **Weaving on import.** Let all descriptors be such that they can be hashed. A hook that fires
returns when all is woven in its module and nothing in
the classes of others. An installation asks about the hinted modules that have not been asked about;
it returns when all is woven in those that have been imported. However an import ends, all is woven
in the modules that have been asked about and were imported; it returns if the module and the
packages it lies in exist. -/
theorem weave_on_import {config : AgentConfig} {r : Run}
    (hmade : ∀ n s, ((made n).test s).FailsOrdinarily) (hon : config.enabled.truthy = true)
    (hr : LogsSafely r)
    (hw : Relation.ReflTransGen (Event made) (World.deploy config none { run := r }) w) :
    (∀ m, ∃ w', onImport 0 m w = (.returned (), w') ∧ WeavesIn (· = m) w w') ∧
    (∃ w', installHooks 0 w = (.returned w.unasked, w') ∧
      WeavesIn (fun m => ∃ n ∈ w.unasked, w.imported.get? n = some m) w w' ∧
      ∀ n ∈ (w.deployment 0).agent.moduleHints, n ∈ (w'.deployment 0).hooked) ∧
    ∀ name,
      let w' := (importModule name w).2
      WeavesIn (w.Fires w') w w' ∧
        (name.isEmpty = false ∧ name.startsWith "." = false →
          (∀ n ∈ ancestry name, w.importable.get? n ≠ none ∨ w.imported.get? n ≠ none) →
          (importModule name w).1 = .returned () ∧
            ∀ n ∈ ancestry name, w'.imported.get? n ≠ none) := by
  obtain ⟨h, ha⟩ := keeps_of_events hmade hon hr hw
  refine ⟨fun m => ?_, ?_, fun name => ?_⟩
  · obtain ⟨w', hrun, hw', hhooks, hdone⟩ := h.onImport hmade m
    refine ⟨w', hrun, hw'.weavesIn (hhooks.toWeaves.mono fun c hc => ⟨m, rfl, hc⟩) ?_⟩
    rintro _ rfl
    exact hdone
  · obtain ⟨w', hrun, hw', hinstalls⟩ := h.installHooks hmade
    refine ⟨w', hrun, hw'.weavesIn (hinstalls.toWeaves.mono ?_) ?_, fun n hn => ?_⟩
    · rintro c ⟨n, hn, m, hm, hc⟩
      exact ⟨m, ⟨n, hn, hm⟩, hc⟩
    · rintro m ⟨n, hn, hm⟩ c hc
      have hm' : w'.imported.get? n = some m := by rw [hinstalls.imported, hm]
      exact (hinstalls.served n hn).2 m hm' c (reaches_of_unwoven_eq hinstalls.unwoven hc)
    · rw [hinstalls.hooked, NameSet.mem_union, unasked, List.mem_filter]
      by_cases hasked : n ∈ (w.deployment 0).hooked
      · exact .inl hasked
      · exact .inr ⟨hn, by simpa using hasked⟩
  · obtain ⟨hw', -, himports⟩ := h.importModule ha hmade name
    exact ⟨hw'.weavesIn himports.toWeaves himports.done,
      fun habsolute hexists => h.importModule_returns ha hmade habsolute hexists⟩

end World

/-- Two matchers: of all types, which are said to live in one module, and of the methods of one
name. -/
def Matcher.ofSteps : Nat → Matcher
  | 0 => .custom "all" (some "app") fun _ => .ok (.bool true)
  | _ => .named "step" none

/-- A descriptor with these matchers. -/
def InstrumentationModule.onSteps : InstrumentationModule where
  name := "steps"
  descriptors := [{
    typeMatcher := ⟨0, .ofSteps 0⟩
    methodMatcher := ⟨1, .ofSteps 1⟩
    advice := .scripted "steps" [] }]

/-- A class, and one with a like method in which it is nested. -/
def Host.nested : Host :=
  let inner := { HostClass.countdown [] with qualname := "Outer.Inner" }
  let outer : HostClass :=
    { index := 1
      module := "app"
      qualname := "Outer"
      members := [.countdown [], { name := "Inner", content := .nested 0 }]
      lineage := [1] }
  ⟨[inner, outer]⟩

/-- A module with the outer class. -/
def HostModule.nested : HostModule := { name := "app", classes := [1] }

namespace World

/-- An agent in a host that can import the module. -/
def nested : World :=
  { deploy {} none {} with host := .nested, importable := [("app", .nested)] }

theorem ancestry_app : ancestry "app" = ["app"] := by cbv

theorem nested_of_events :
    Relation.ReflTransGen (Event .ofSteps) (deploy {} none {}) nested := by
  let step := ("step", MemberContent.method .onInstance .countdown)
  let inner : ClassDeclaration := ⟨"app", "Outer.Inner", [step], [], []⟩
  let outer : ClassDeclaration := ⟨"app", "Outer", [step, ("Inner", .nested 0)], [], []⟩
  have hdeclared : Relation.ReflTransGen (Event .ofSteps) (deploy {} none {})
      { deploy {} none {} with host := .nested } :=
    .tail (.single (.declare (d := inner) rfl rfl)) (.declare (d := outer) rfl rfl)
  have hprovided : addModule .nested { deploy {} none {} with host := .nested } = nested := by
    rw [addModule, show HostModule.nested.name = "app" from rfl, ancestry_app]
    rfl
  exact hprovided ▸ hdeclared.tail (.provide .nested _)

/-- The outer class is transformed before its module is imported; the inner one is reached through
it. -/
theorem weave_on_import_of_nested :
    let w := (World.transform 0 1 (installHooks 0 (World.register 0 .onSteps nested).2).2).2
    let w' := (importModule "app" w).2
    Relation.ReflTransGen (Event .ofSteps) (deploy {} none {}) w ∧
      (importModule "app" w).1 = .returned () ∧ w.Fires w' .nested ∧
      ∀ c ∈ [0, 1], ∃ cls, w'.host.class? c = some cls ∧
        ∀ d ∈ InstrumentationModule.onSteps.descriptors, d.WovenOnce cls := by
  intro w w'
  have habsolute : "app".isEmpty = false ∧ "app".startsWith "." = false := ⟨rfl, by cbv⟩
  have hmodule : ∀ d ∈ InstrumentationModule.onSteps.descriptors, d.MadeFrom .ofSteps := by
    intro d hd
    cases List.mem_singleton.mp hd
    exact ⟨rfl, rfl, rfl⟩
  have hevents : Relation.ReflTransGen (Event .ofSteps) (deploy {} none {}) w :=
    ((nested_of_events.tail (.register .onSteps hmodule _)).tail (.install _)).tail (.transform 1 _)
  have hmade : ∀ n s, ((Matcher.ofSteps n).test s).FailsOrdinarily := by
    intro n s f hf
    cases n <;> cases hf
  have hsafe : LogsSafely ({} : Run) := fun _ hh => absurd hh List.not_mem_nil
  obtain ⟨-, -, himport⟩ := weave_on_import hmade rfl hsafe hevents
  obtain ⟨hweaves, hreturns⟩ := himport "app"
  have hbefore : w.imported.get? "app" = none :=
    Option.isNone_iff_eq_none.mp (by decide +kernel)
  have hafter : w'.imported.get? "app" = some .nested := by
    have hparts : (w'.imported.get? "app").map (fun m => (m.name, m.classes)) =
        some ("app", [1]) := by
      unfold w'
      rw [importModule_of_absolute habsolute, ancestry_app]
      decide +kernel
    obtain ⟨⟨_, _⟩, hm, hparts⟩ := Option.map_eq_some_iff.mp hparts
    cases hparts
    exact hm
  have hfires : w.Fires w' .nested := ⟨"app", by decide +kernel, hbefore, hafter⟩
  have hexists : ∀ n ∈ ancestry "app", w.importable.get? n ≠ none ∨ w.imported.get? n ≠ none := by
    rw [ancestry_app]
    simp only [ne_eq, ← Option.isNone_iff_eq_none]
    decide +kernel
  have hreaches : ∀ c ∈ [0, 1], c ∈ HostModule.nested.declaredClasses w.host := by decide +kernel
  refine ⟨hevents, (hreturns habsolute hexists).1, hfires, fun c hc => ?_⟩
  obtain ⟨cls, hcls, hwoven⟩ := hweaves.covers .nested hfires c
    (reaches_of_unwoven_eq hweaves.only.unwoven (mem_declaredClasses.mp (hreaches c hc)))
  refine ⟨cls, hcls, fun d hd => hwoven d ?_ ?_⟩
  · rw [hweaves.only.descriptors]
    exact hd
  · cases List.mem_singleton.mp hd
    rfl

/-- The hook of the module does not weave a descriptor that cannot be hashed, since another one has
been woven into its classes. -/
theorem unwoven_on_import_of_unhashable :
    let stray : Descriptor := {
      typeMatcher := ⟨0, .ofSteps 0⟩
      methodMatcher := ⟨1, .ofSteps 1⟩
      advice := .scripted "stray" []
      unhashed := some "CountingAdvice" }
    let strays : InstrumentationModule := { name := "strays", descriptors := [stray] }
    let w := (World.register 0 strays (World.register 0 .onSteps nested).2).2
    let w' := (onImport 0 .nested w).2
    stray ∈ (w.deployment 0).agent.descriptors ∧ LogsSafely w ∧
      (onImport 0 .nested w).1 = .returned () ∧
      ∀ c ∈ [0, 1], c ∈ HostModule.nested.declaredClasses w.host ∧
        ∃ cls, w'.host.class? c = some cls ∧ stray.acceptsType cls = true ∧
          ¬stray.WovenOnce cls := by
  intro stray strays w w'
  have hsafe : LogsSafely w := fun _ hh => absurd hh List.not_mem_nil
  have hdeclared : ∀ c ∈ [0, 1], c ∈ HostModule.nested.declaredClasses w.host := by decide +kernel
  have hclass : ∀ c ∈ [0, 1], (w'.host.class? c).isSome = true := by decide +kernel
  have hunwoven : ∀ c ∈ [0, 1], ∀ cls ∈ w'.host.class? c, stray.acceptsType cls = true ∧
      ¬stray.WovenOnce cls := by
    unfold Descriptor.WovenOnce
    decide +kernel
  refine ⟨List.mem_append_right _ (List.mem_singleton.mpr rfl), hsafe, rfl, fun c hc => ?_⟩
  obtain ⟨cls, hcls⟩ := Option.isSome_iff_exists.mp (hclass c hc)
  exact ⟨hdeclared c hc, cls, hcls, hunwoven c hc cls hcls⟩

end World

end AspectAgent
