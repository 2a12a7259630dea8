import AspectAgent.Proofs.Registration
import AspectAgent.Proofs.WithoutMethods

/-!
# Isolation of faults in a transformation

A matcher that fails, for a class or for one of its methods, and a method that cannot be assigned do
not affect what else a transformation does. Each of these faults is met where it arises: the first
while descriptors are selected, the second while methods are, the third while a descriptor is woven.
This is so if the descriptors that match can be hashed. One that cannot is woven only into a class
that nothing has been woven into before.
-/

namespace AspectAgent

namespace Agent

variable {a : Agent} {cls : HostClass}

theorem mem_applied {d : Descriptor} (hd : d ∈ a.descriptors) : d ∈ a.applied cls ↔
    a.config.enabled.truthy = true ∧
      (d.typeMatcher.matcher.test (.type cls.describe)).outcome = .ok true := by
  have haccepts : d.acceptsType cls = true ↔
      (d.typeMatcher.matcher.test (.type cls.describe)).outcome = .ok true := by
    unfold Descriptor.acceptsType Verdict.accepts
    split
    · rename_i b hb
      simp [hb]
    · rename_i f hf
      simp [hf]
  unfold applied
  split
  · rename_i hon
    rw [List.mem_filter, haccepts]
    simp [hd, hon]
  · rename_i hoff
    simp [hoff]

end Agent

/-- **Isolation of faults.** The descriptors of an agent are those of the modules that it has
accepted, in the order of registration; a registration that is declined or refused changes nothing.
If those can be hashed whose type matcher matches, a transformation applies these, in this order,
and puts the sites of each around the class. Whatever one descriptor does, be it that a matcher of
it fails or that a method cannot be assigned, the others get what they get without it, and without
its own layers the hosts are the same. Methods on which a matcher fails make no difference to the
others. If no descriptor matches, or the agent is disabled, nothing is changed. -/
theorem fault_isolation {config : AgentConfig} {guard : Nat} {ms : List InstrumentationModule}
    {a : Agent} {l : Loom} {c : Nat} {cls : HostClass} (ha : Agent.Registered config guard ms a)
    (hc : l.host.class? c = some cls) (hds : ∀ d ∈ a.descriptors, d.FailsOrdinarilyOn cls)
    (hhashed : ∀ d ∈ a.applied cls, d.unhashed = none) (hl : LogsSafely l) :
    let after := (a.transform c l).2
    (a.descriptors = ms.flatMap InstrumentationModule.descriptors ∧
      ∀ m r, a.after m r =
        if config.isModuleEnabled m.name ∧ m.name ∉ ms.map InstrumentationModule.name then a.add m
        else a) ∧
    ((a.applied cls).Sublist a.descriptors ∧
      ∀ d ∈ a.descriptors, d ∈ a.applied cls ↔ config.enabled.truthy = true ∧
        (d.typeMatcher.matcher.test (.type cls.describe)).outcome = .ok true) ∧
    ((a.transform c l).1 =
        .returned ((l.registry.answers c cls (a.applied cls)).flatMap Prod.snd) ∧
      after.host = l.host.modify c
        (HostClass.addLayers (Loom.newLayers a.guard c cls l.registry (a.applied cls))) ∧
      after.registry = l.registry.wovenInto c cls (a.applied cls)) ∧
    (∀ ds₁ d ds₂, a.descriptors = ds₁ ++ d :: ds₂ →
      let b := a.having (ds₁ ++ ds₂)
      let after' := (b.transform c l).2
      let answers := l.registry.answers c cls (a.applied cls)
      let answers' := l.registry.answers c cls (b.applied cls)
      ((a.transform c l).1 = .returned (answers.flatMap Prod.snd) ∧
        (b.transform c l).1 = .returned (answers'.flatMap Prod.snd) ∧
        answers.filter (fun e => e.1.key ≠ d.key) = answers'.filter fun e => e.1.key ≠ d.key) ∧
      after.registry.without d.key = after'.registry.without d.key ∧
      (∀ c' k, k ≠ d.key → after.registry.sites? c' k = after'.registry.sites? c' k) ∧
      after.host.keeping (Layer.isOther d.key) = after'.host.keeping (Layer.isOther d.key) ∧
      ((∃ f, (d.typeMatcher.matcher.test (.type cls.describe)).outcome = .error f) →
        (a.transform c l).1 = (b.transform c l).1 ∧ after.host = after'.host ∧
          after.registry = after'.registry)) ∧
    (∀ d ∈ l.registry.fresh c (a.applied cls), ∀ p : MethodDescription → Bool,
      (∀ m ∈ cls.declaredMethods, p m = true →
        ∃ f, (d.methodMatcher.matcher.test (.method m)).outcome = .error f) →
      let l' := { l with host := l.host.modify c (HostClass.withoutMethods p) }
      let after' := (a.transform c l').2
      after.registry.sites? c d.key = after'.registry.sites? c d.key ∧
      (after.host.modify c (HostClass.withoutMethods p)).keeping (Layer.isOf d.key) =
        after'.host.keeping (Layer.isOf d.key)) ∧
    (a.applied cls = [] → (a.transform c l).1 = .returned [] ∧ after.host = l.host ∧
      after.registry = l.registry) ∧
    (config.enabled.truthy = false → a.transform c l = (.returned [], l)) := by
  intro after
  obtain ⟨r, hrun, -⟩ := Agent.transform_settled hc hds hhashed hl
  have houtcome := congrArg Prod.fst hrun
  have hhost : after.host = _ := congrArg (fun o => o.2.host) hrun
  have hregistry : after.registry = _ := congrArg (fun o => o.2.registry) hrun
  refine ⟨⟨ha.descriptors, fun m r => ?_⟩, ⟨a.applied_sublist cls, fun d hd => ?_⟩,
    ⟨houtcome, hhost, hregistry⟩, fun ds₁ d ds₂ hds' => ?_, fun d hd p hp => ?_, fun happlied => ?_,
    fun hoff => ?_⟩
  · rw [Agent.after_eq]
    simp only [ha.accepts_iff]
  · rw [← ha.config_eq]
    exact Agent.mem_applied hd
  · obtain ⟨hanswers, hwithout, hkeeping⟩ := Agent.transform_isolated hc hds hhashed hl hds'
    have hsites : ∀ c' k, k ≠ d.key → after.registry.sites? c' k = _ :=
      fun c' k hk => Registry.sites?_eq_of_without hwithout c' hk
    refine ⟨hanswers, hwithout, hsites, hkeeping, fun ⟨f, hf⟩ => ?_⟩
    have hno : d.acceptsType cls = false := by
      rw [Descriptor.acceptsType, Verdict.accepts, hf]
    exact Agent.transform_unaffected hc hds hhashed hl hds' hno
  · have hno : ∀ m ∈ cls.declaredMethods, p m = true → d.acceptsMethod m = false := by
      intro m hm hpm
      obtain ⟨f, hf⟩ := hp m hm hpm
      rw [Descriptor.acceptsMethod, Verdict.accepts, hf]
    obtain ⟨hsites, hsites', hkeeping⟩ := Agent.transform_without_methods hc hds hhashed hl hd hno
    exact ⟨hsites.trans hsites'.symm, hkeeping⟩
  · rw [happlied] at houtcome hhost hregistry
    refine ⟨houtcome, hhost.trans ?_, hregistry.trans ?_⟩
    · show l.host.modify c (HostClass.addLayers []) = l.host
      rw [HostClass.addLayers_nil, Host.modify_id]
    · show ({ l.registry with entries := l.registry.entries ++ [] } : Registry) = l.registry
      rw [List.append_nil]
  · rw [← ha.config_eq] at hoff
    exact Agent.transform_of_disabled c l hoff

/-- A matcher that fails on everything. -/
def Matcher.broken : Matcher :=
  .custom "broken" none fun _ => .error (.requested .value (some "broken"))

/-- A matcher that fails on one method and matches the others. -/
def Matcher.brokenOn (name : String) : Matcher :=
  .custom "broken on one" none fun s =>
    if s.name? = some name then .error (.requested .value (some "broken")) else .ok (.bool true)

/-- Three descriptors for one class: the type matcher of the first fails, the method matcher of the
second fails on one method, and the third matches a method that cannot be assigned. -/
def InstrumentationModule.faulty : InstrumentationModule :=
  let descriptor := fun number name typeMatcher methodMatcher => ({
    typeMatcher := ⟨number, typeMatcher⟩
    methodMatcher := ⟨number + 1, methodMatcher⟩
    advice := .scripted name []
    name := name } : Descriptor)
  let countdown : Matcher := .named "app.Countdown" none
  { name := "faulty"
    descriptors :=
      [descriptor 0 "first" .broken countdown,
        descriptor 2 "second" countdown (.brokenOn "stop"),
        descriptor 4 "third" countdown (.custom "all" none fun _ => .ok (.bool true))] }

/-- A class with two methods, the second of which cannot be assigned. -/
def HostClass.partlyLocked : HostClass :=
  { HostClass.countdown [] with
    members := [.countdown [], { Member.countdown [] with name := "stop" }]
    locked := ["stop"] }

theorem fault_isolation_of_faulty :
    let a := ({} : Agent).add .faulty
    let l : Loom := { host := { classes := [.partlyLocked] } }
    Agent.Registered {} 0 [.faulty] a ∧ LogsSafely l ∧
      ∃ d₁ d₂ d₃, a.descriptors = [d₁, d₂, d₃] ∧
        (a.transform 0 l).1 = .returned [⟨"app.Countdown", "step", d₂⟩] ∧
        (a.transform 0 l).2.registry.sites? 0 d₁.key = none ∧
        (a.transform 0 l).2.registry.sites? 0 d₃.key = some [⟨"app.Countdown", "step", d₃⟩] ∧
        (a.transform 0 l).2.host = ((a.having [d₂, d₃]).transform 0 l).2.host := by
  intro a l
  have ha : Agent.Registered {} 0 [.faulty] a := .register .new .faulty {}
  have hl : LogsSafely l := nofun
  have hds : ∀ d ∈ a.descriptors, d.FailsOrdinarilyOn .partlyLocked := by decide
  have hhashed : ∀ d ∈ a.applied .partlyLocked, d.unhashed = none := by decide
  have hc : l.host.class? 0 = some .partlyLocked := rfl
  obtain ⟨-, -, ⟨houtcome, -, hregistry⟩, hisolated, -⟩ := fault_isolation ha hc hds hhashed hl
  refine ⟨ha, hl, _, _, _, rfl, houtcome.trans rfl, ?_, ?_, ?_⟩
  · rw [hregistry]
    rfl
  · rw [hregistry]
    rfl
  · exact ((hisolated [] _ _ rfl).2.2.2.2 ⟨_, rfl⟩).2.1

/-- Of two descriptors that match and cannot be hashed only the first is applied. Without this one
the other would be. -/
theorem isolation_broken_of_unhashable :
    let d := { Descriptor.onCountdown "one" .onExit [] with unhashed := some "CountingAdvice" }
    let e := { Descriptor.onCountdown "two" .onExit [] with unhashed := some "CountingAdvice" }
    let a := ({} : Agent).add { name := "counting", descriptors := [d, e] }
    let l : Loom := { host := .countdown [] }
    let around := fun l : Loom => (l.host.class? 0).map fun cls =>
      cls.members.map fun m => m.layers.map fun l => l.site.descriptor.name
    Agent.Registered {} 0 [{ name := "counting", descriptors := [d, e] }] a ∧ LogsSafely l ∧
      (∀ d ∈ a.descriptors, d.FailsOrdinarilyOn (.countdown [])) ∧
      a.applied (.countdown []) = [d, e] ∧ (a.transform 0 l).1 = .returned [] ∧
      around (a.transform 0 l).2 = some [["one"]] ∧
      around ((a.having [e]).transform 0 l).2 = some [["two"]] := by
  intro d e a l around
  exact ⟨.register .new _ {}, nofun, by decide, rfl, rfl, rfl, rfl⟩

end AspectAgent
