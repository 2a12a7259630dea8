import AspectAgent.Proofs.HookBookkeeping
import AspectAgent.Proofs.Registration
import AspectAgent.Proofs.ReliableLogging

/-!
# Start-up

A start-up goes through four stages: it reads its configuration, captures diagnostics if it is asked
to, registers the modules, and installs the hooks. It raises where a stage does, and nothing of the
stages before is undone. So a configuration that cannot be read leaves the world as it was; a module
that is refused leaves it without a new hook, but with the capture; and an installation that raises
leaves the hooks that it has registered besides.

After the capture no stage changes how the channel is set, so that the capture is all that a
start-up does to it.
-/

namespace AspectAgent

open Act Contract

/-! ## Hooks leave the channel as it is set -/

namespace Loom

theorem weave_keepsSettings (guard c : Nat) (d : Descriptor) :
    (keepsSettings Loom).Meets (weave guard c d) := by
  intro l
  cases hk : l.registry.lookUp c d with
  | error f =>
    rw [MeetsAt, weave_of_refused hk]
    exact (keepsSettings Loom).refl true l
  | ok found =>
    cases found with
    | some sites =>
      rw [MeetsAt, weave_of_sites hk]
      exact (keepsSettings Loom).refl true l
    | none =>
      cases hc : l.host.class? c with
      | none =>
        rw [MeetsAt, weave_of_missing hk hc]
        exact (keepsSettings Loom).refl true l
      | some cls =>
        have hselected :=
          Selection.methodsFor_keepsSettings cls.describe d cls.declaredMethods l.run
        unfold MeetsAt weave at *
        rw [hk, hc]
        dsimp only [running, within]
        rcases hrun : Selection.methodsFor cls.describe d cls.declaredMethods l.run with ⟨o, r⟩
        rw [hrun] at hselected
        cases o with
        | raised f => exact hselected
        | unfinished => exact hselected
        | returned methods =>
          dsimp only
          split
          · exact hselected
          · have hreport : ∀ record, (keepsSettings Loom).Meets (report record : Act Loom Unit) :=
              fun record l => LogChannel.sameSettings_log l.run.channel record
            exact (keepsSettings Loom).trans (by exact hselected)
              (meets_bind (hreport _) (fun _ => meets_pure _) _)

theorem allowsWeaving_keepsSettings (c : Nat) : AllowsWeaving (keepsSettings Loom) c :=
  ⟨fun _ _ _ h => h, fun guard d => weave_keepsSettings guard c d⟩

end Loom

namespace World

theorem transform_keepsSettings (i c : Nat) : (keepsSettings World).Meets (transform i c) :=
  fun w => Loom.transform_meets (Loom.allowsWeaving_keepsSettings c) _ (w.loom i)

theorem keepsSettings_allows : AllowsInstallations (keepsSettings World) where
  transform := transform_keepsSettings
  run _ _ _ h := h
  sites _ _ w := (keepsSettings World).refl true w
  imported w _ := (keepsSettings World).refl true w
  released w _ := (keepsSettings World).refl true w
  marked _ _ w := (keepsSettings World).refl true w
  added w _ := (keepsSettings World).refl true w

end World

/-! ## Which modules can be registered -/

namespace AgentConfig

variable (c : AgentConfig) (ch : LogChannel)

def enabledAmong (ms : List InstrumentationModule) : List InstrumentationModule :=
  ms.filter fun m => c.isModuleEnabled m.name

/-- The modules at which the descriptors of the enabled modules hint. -/
def hints (ms : List InstrumentationModule) : NameSet :=
  ({ descriptors := (c.enabledAmong ms).flatMap InstrumentationModule.descriptors } :
    Agent).moduleHints

/-- Modules can be registered one after the other: no two that are enabled have one name, and it can
be logged that the others are disabled. -/
structure Admits (ms : List InstrumentationModule) : Prop where
  names : ((c.enabledAmong ms).map InstrumentationModule.name).Nodup
  disabled : ∀ m ∈ ms, c.isModuleEnabled m.name = false →
    ch.verdict (Agent.disabledRecord m.name) = .ok ()

/-- A module cannot be registered behind others, and why. -/
inductive Refuses (before : List InstrumentationModule) (m : InstrumentationModule) :
    Failure → Prop where
  | duplicate (hon : c.isModuleEnabled m.name = true)
      (hname : m.name ∈ (c.enabledAmong before).map InstrumentationModule.name) :
      Refuses before m (.duplicateModule m.name)
  | unloggable {f : Failure} (hoff : c.isModuleEnabled m.name = false)
      (hf : ch.verdict (Agent.disabledRecord m.name) = .error f) : Refuses before m f

variable {c ch} {before : List InstrumentationModule} {m : InstrumentationModule}

theorem enabledAmong_append_of_enabled (h : c.isModuleEnabled m.name = true) :
    c.enabledAmong (before ++ [m]) = c.enabledAmong before ++ [m] := by
  rw [enabledAmong, List.filter_append, List.filter_cons_of_pos (by exact h)]
  rfl

theorem enabledAmong_append_of_disabled (h : c.isModuleEnabled m.name = false) :
    c.enabledAmong (before ++ [m]) = c.enabledAmong before := by
  rw [enabledAmong, List.filter_append, List.filter_cons_of_neg (by simp [h])]
  exact List.append_nil _

/-- If the agent is off, no module is enabled. -/
theorem hints_of_disabled (hoff : c.enabled.truthy = false) (ms : List InstrumentationModule) :
    c.hints ms = [] := by
  have hnone : c.enabledAmong ms = [] := by
    refine List.filter_eq_nil_iff.mpr fun m _ => ?_
    simp [isModuleEnabled, moduleSwitch, hoff]
  rw [hints, hnone]
  rfl

theorem admits_nil : c.Admits ch [] := ⟨.nil, nofun⟩

theorem Admits.enabled (h : c.Admits ch before) (hon : c.isModuleEnabled m.name = true)
    (hnew : m.name ∉ (c.enabledAmong before).map InstrumentationModule.name) :
    c.Admits ch (before ++ [m]) where
  names := by
    rw [enabledAmong_append_of_enabled hon, List.map_append]
    refine h.names.append (List.nodup_singleton _) fun n hn hm => ?_
    rw [List.mem_singleton.mp hm] at hn
    exact hnew hn
  disabled x hx hoff := by
    rcases List.mem_append.mp hx with hx | hx
    · exact h.disabled x hx hoff
    · rw [List.mem_singleton.mp hx, hon] at hoff
      cases hoff

theorem Admits.skip (h : c.Admits ch before) (hoff : c.isModuleEnabled m.name = false)
    (hlog : ch.verdict (Agent.disabledRecord m.name) = .ok ()) :
    c.Admits ch (before ++ [m]) where
  names := by
    rw [enabledAmong_append_of_disabled hoff]
    exact h.names
  disabled x hx hx' := by
    rcases List.mem_append.mp hx with hx | hx
    · exact h.disabled x hx hx'
    · exact List.mem_singleton.mp hx ▸ hlog

/-- Where a module is refused, the modules cannot be registered. -/
theorem Refuses.not_admits {f : Failure} (h : c.Refuses ch before m f)
    (after : List InstrumentationModule) : ¬c.Admits ch (before ++ m :: after) := by
  intro hadmits
  cases h with
  | duplicate hon hname =>
    have hsplit : c.enabledAmong (before ++ m :: after) =
        c.enabledAmong before ++ m :: c.enabledAmong after := by
      rw [enabledAmong, List.filter_append, List.filter_cons_of_pos (by exact hon)]
      rfl
    have hnames := hadmits.names
    rw [hsplit, List.map_append, List.map_cons] at hnames
    exact List.disjoint_of_nodup_append hnames hname List.mem_cons_self
  | unloggable hoff hf =>
    rw [hadmits.disabled m (List.mem_append_right _ List.mem_cons_self) hoff] at hf
    cases hf

end AgentConfig

namespace World

/-! ## The stages -/

/-- The channel as a start-up sets it: as it was, or with one more capture. -/
def channelFor (w : World) (c : AgentConfig) : LogChannel :=
  if c.captureDiagnostics.truthy then
    (w.run.channel.addArchive { capacity := some diagnosticsCapacity }).capture warningLevel
      (.archive w.run.channel.archives.length)
  else w.run.channel

/-- The world in which a start-up registers its modules. -/
def begun (w : World) (c : AgentConfig) : World :=
  deploy c (if c.captureDiagnostics.truthy then some w.run.channel.archives.length else none)
    (HasChannel.setChannel (w.channelFor c) w)

/-- The configuration of a start-up: the one it is given, or the one of the environment. -/
def configFor (config : Option AgentConfig) (environment : Table String) :
    Except Failure AgentConfig :=
  match config with
  | some c => .ok c
  | none => AgentConfig.ofEnvironment environment

variable {c : AgentConfig} {w₀ w w' : World}

theorem startUp_of_error {config : Option AgentConfig} {environment : Table String} {f : Failure}
    (h : configFor config environment = .error f) (modules : List InstrumentationModule)
    (w : World) : startUp modules config environment w = (.raised f, w) := by
  cases config with
  | some c => cases h
  | none =>
    rw [configFor] at h
    rw [startUp, h]
    rfl

theorem startUp_of_ok {config : Option AgentConfig} {environment : Table String}
    (h : configFor config environment = .ok c) (modules : List InstrumentationModule) (w : World) :
    startUp modules config environment w =
      (do
        forEach modules fun m => do
          let _ ← register w.deployments.length m
        let _ ← installHooks w.deployments.length
        return w.deployments.length : Act World Nat) (w.begun c) := by
  have hgiven : startUp modules config environment w = startUp modules (some c) [] w := by
    cases config with
    | some c' =>
      cases h
      rfl
    | none =>
      rw [configFor] at h
      unfold startUp
      dsimp only
      rw [h]
      rfl
  rw [hgiven]
  unfold startUp begun channelFor
  dsimp only
  rw [bind_of_returned (give_apply c w)]
  cases hcapture : c.captureDiagnostics.truthy <;> rfl

/-! ## Registrations in turn -/

/-- A start-up has registered some modules and come no further. -/
structure Registering (c : AgentConfig) (w₀ : World) (accepted : List InstrumentationModule)
    (w : World) : Prop where
  length : w.deployments.length = w₀.deployments.length + 1
  agent : Agent.Registered c w₀.run.guards.length accepted
    (w.deployment w₀.deployments.length).agent
  hooked : (w.deployment w₀.deployments.length).hooked = []
  hooks : w.hooks = w₀.hooks
  settings : LogChannel.sameSettings.allows true (w₀.channelFor c) w.run.channel

namespace Registering

variable {accepted accepted' before : List InstrumentationModule} {m : InstrumentationModule}

theorem begun (w₀ : World) (c : AgentConfig) : Registering c w₀ [] (w₀.begun c) := by
  have hdeployment : ∀ diagnostics : Option Nat,
      (deploy c diagnostics (HasChannel.setChannel (w₀.channelFor c) w₀)).deployment
        w₀.deployments.length =
      { agent := { config := c, guard := w₀.run.guards.length }, diagnostics := diagnostics } := by
    intro diagnostics
    unfold deploy deployment
    rw [List.getD_eq_getElem?_getD]
    exact congrArg (fun d : Option Deployment => d.getD {}) List.getElem?_concat_length
  refine ⟨List.length_append, ?_, ?_, rfl, LogChannel.sameSettings.refl true _⟩
  · rw [World.begun, hdeployment]
    exact .new
  · rw [World.begun, hdeployment]

theorem change_run (h : Registering c w₀ accepted w) {r : Run}
    (hr : LogChannel.sameSettings.allows true w.run.channel r.channel) :
    Registering c w₀ accepted { w with run := r } :=
  ⟨h.length, h.agent, h.hooked, h.hooks, LogChannel.sameSettings.trans h.settings hr⟩

theorem change_agent (h : Registering c w₀ accepted w) {a : Agent}
    (ha : Agent.Registered c w₀.run.guards.length accepted' a) :
    Registering c w₀ accepted'
      (w.modifyDeployment w₀.deployments.length fun d => { d with agent := a }) := by
  have hi : w₀.deployments.length < w.deployments.length := by
    rw [h.length]
    exact Nat.lt_succ_self _
  refine ⟨(List.length_modify _ _ _).trans h.length, ?_, ?_, h.hooks, h.settings⟩
  · rw [deployment_modify hi]
    exact ha
  · rw [deployment_modify hi]
    exact h.hooked

theorem verdict (h : Registering c w₀ accepted w) (r : LogRecord) :
    w.run.channel.verdict r = (w₀.channelFor c).verdict r := by
  obtain ⟨archives, passedOn, hchannel⟩ := h.settings
  rw [hchannel]
  exact LogChannel.verdict_congr rfl rfl r

/-- One registration behind others: it returns and the modules can be registered with this one, or
it raises as the module is refused, and registers nothing. -/
theorem register (h : Registering c w₀ (c.enabledAmong before) w)
    (hbefore : c.Admits (w₀.channelFor c) before) (m : InstrumentationModule) :
    (∃ b w', World.register w₀.deployments.length m w = (.returned b, w') ∧
      Registering c w₀ (c.enabledAmong (before ++ [m])) w' ∧
      c.Admits (w₀.channelFor c) (before ++ [m])) ∨
    ∃ f w', World.register w₀.deployments.length m w = (.raised f, w') ∧
      Registering c w₀ (c.enabledAmong before) w' ∧
      c.Refuses (w₀.channelFor c) before m f := by
  rw [register_apply]
  cases hon : c.isModuleEnabled m.name with
  | false =>
    have hsame := LogChannel.sameSettings_log w.run.channel (Agent.disabledRecord m.name)
    have hlogged : Registering c w₀ (c.enabledAmong before)
        { w with run := { w.run with
          channel := w.run.channel.logged (Agent.disabledRecord m.name) } } := h.change_run hsame
    rw [Agent.register_of_disabled (by rw [h.agent.config_eq]; exact hon), h.verdict]
    cases hverdict : (w₀.channelFor c).verdict (Agent.disabledRecord m.name) with
    | ok _ =>
      refine .inl ⟨_, _, rfl, ?_, hbefore.skip hon hverdict⟩
      rw [AgentConfig.enabledAmong_append_of_disabled hon]
      exact hlogged.change_agent h.agent
    | error f => exact .inr ⟨f, _, rfl, hlogged, .unloggable hon hverdict⟩
  | true =>
    have hon' :
        (w.deployment w₀.deployments.length).agent.config.isModuleEnabled m.name = true := by
      rw [h.agent.config_eq]
      exact hon
    by_cases hname : m.name ∈ (c.enabledAmong before).map InstrumentationModule.name
    · rw [Agent.register_of_taken hon' ((h.agent.hasModule_iff _).mpr hname)]
      exact .inr ⟨_, _, rfl, h, .duplicate hon hname⟩
    · have hnew := Bool.eq_false_iff.mpr (mt (h.agent.hasModule_iff m.name).mp hname)
      rw [Agent.register_of_new hon' hnew]
      refine .inl ⟨_, _, rfl, ?_, hbefore.enabled hon hname⟩
      rw [AgentConfig.enabledAmong_append_of_enabled hon]
      exact h.change_agent (h.agent.add hon hname)

/-- Registrations one after the other: all return, or one raises as its module is refused behind
those before it. -/
theorem forEach_register (h : Registering c w₀ (c.enabledAmong before) w)
    (hbefore : c.Admits (w₀.channelFor c) before) (rest : List InstrumentationModule) :
    (∃ w', (forEach rest fun m => do
        let _ ← World.register w₀.deployments.length m) w = (.returned (), w') ∧
      Registering c w₀ (c.enabledAmong (before ++ rest)) w' ∧
      c.Admits (w₀.channelFor c) (before ++ rest)) ∨
    ∃ between m after f w', rest = between ++ m :: after ∧
      (forEach rest fun m => do
        let _ ← World.register w₀.deployments.length m) w = (.raised f, w') ∧
      Registering c w₀ (c.enabledAmong (before ++ between)) w' ∧
      c.Admits (w₀.channelFor c) (before ++ between) ∧
      c.Refuses (w₀.channelFor c) (before ++ between) m f := by
  induction rest generalizing before w with
  | nil =>
    rw [List.append_nil]
    exact .inl ⟨w, rfl, h, hbefore⟩
  | cons m rest ih =>
    rw [forEach_cons, bind_apply, bind_apply]
    rcases h.register hbefore m with ⟨b, v, hrun, hv, hm⟩ | ⟨f, v, hrun, hv, hm⟩
    · rw [hrun]
      rcases ih hv hm with
        ⟨w', hrest, hw', hall⟩ | ⟨between, m', after, f, w', hsplit, hrest, hw', hall, hm'⟩
      · rw [List.append_assoc] at hw' hall
        exact .inl ⟨w', hrest, hw', hall⟩
      · rw [List.append_assoc] at hw' hall hm'
        exact .inr ⟨m :: between, m', after, f, w', by rw [hsplit]; rfl, hrest, hw', hall, hm'⟩
    · rw [hrun]
      refine .inr ⟨[], m, rest, f, v, rfl, rfl, ?_⟩
      rw [List.append_nil]
      exact ⟨hv, hbefore, hm⟩

/-- What is new to an installation after the registrations are the hints of the enabled modules. -/
theorem newHints (h : Registering c w₀ (c.enabledAmong before) w) :
    w.newHints w₀.deployments.length = c.hints before := by
  have hhints : (w.deployment w₀.deployments.length).agent.moduleHints = c.hints before := by
    rw [Agent.moduleHints, h.agent.descriptors]
    rfl
  rw [World.newHints, h.hooked, hhints]
  exact List.filter_eq_self.mpr fun _ _ => rfl

end Registering

/-! ## How a start-up ends -/

/-- The hooks are those that there were, and those of a deployment for some modules. -/
def AddsHooks (i : Nat) (names : List String) (w w' : World) : Prop :=
  ∀ j, w'.registered j = w.registered j ++ if i = j then names else []

/-- How a start-up can end: its configuration cannot be read; a module is refused behind others, and
no hook has been registered; an installation raises at a hint, and the hooks up to this one have
been registered; or it returns the number of its deployment, with a hook for every hint. -/
inductive StartsUp (modules : List InstrumentationModule) (w : World) :
    Except Failure AgentConfig → Outcome Nat → World → Prop where
  | unread (f : Failure) : StartsUp modules w (.error f) (.raised f) w
  | refused {c : AgentConfig} {before after : List InstrumentationModule}
      {m : InstrumentationModule} {f : Failure} {w' : World}
      (hmodules : modules = before ++ m :: after) (hbefore : c.Admits (w.channelFor c) before)
      (hm : c.Refuses (w.channelFor c) before m f) (hhooks : w'.hooks = w.hooks) :
      StartsUp modules w (.ok c) (.raised f) w'
  | unhooked {c : AgentConfig} {hooked rest : List String} {n : String} {f : Failure} {w' : World}
      (hadmits : c.Admits (w.channelFor c) modules)
      (hhints : c.hints modules = hooked ++ n :: rest)
      (hhooks : AddsHooks w.deployments.length (hooked ++ [n]) w w') :
      StartsUp modules w (.ok c) (.raised f) w'
  | started {c : AgentConfig} {w' : World} (hadmits : c.Admits (w.channelFor c) modules)
      (hhooks : AddsHooks w.deployments.length (c.hints modules) w w') :
      StartsUp modules w (.ok c) (.returned w.deployments.length) w'

/-- A start-up that raises has registered a hook unless a module is refused. -/
theorem StartsUp.addsNone_iff {modules : List InstrumentationModule} {f : Failure}
    (h : StartsUp modules w (.ok c) (.raised f) w') :
    AddsHooks w.deployments.length [] w w' ↔ ¬c.Admits (w.channelFor c) modules := by
  cases h with
  | refused hmodules _ hm hhooks =>
    refine iff_of_true (fun j => ?_) (hmodules ▸ hm.not_admits _)
    rw [ite_self, List.append_nil, registered, hhooks, registered]
  | unhooked hadmits _ hhooks =>
    refine iff_of_false (fun hnone => ?_) (not_not_intro hadmits)
    have hsame := (hhooks w.deployments.length).symm.trans (hnone w.deployments.length)
    rw [if_pos rfl, if_pos rfl] at hsame
    exact absurd (List.append_cancel_left hsame) (by simp)

theorem Marks.addsHooks {i : Nat} {names : List String} (h : Marks i names w w')
    (hhooks : w.hooks = w₀.hooks) : AddsHooks i names w₀ w' := by
  intro j
  have hbefore : w₀.registered j = w.registered j := by
    unfold World.registered
    rw [hhooks]
  rw [hbefore]
  split
  · rename_i hij
    rw [← hij, h.registered]
  · rename_i hij
    rw [(h.others j hij).1, List.append_nil]

/-- The installation of a start-up registers hooks for all hints if it returns, and if it raises,
for those up to the one at which it does. -/
theorem Registering.installHooks {modules : List InstrumentationModule}
    (h : Registering c w₀ (c.enabledAmong modules) w) :
    (∃ new w', World.installHooks w₀.deployments.length w = (.returned new, w') ∧
      AddsHooks w₀.deployments.length (c.hints modules) w₀ w') ∨
    ∃ hooked n rest f w', c.hints modules = hooked ++ n :: rest ∧
      World.installHooks w₀.deployments.length w = (.raised f, w') ∧
      AddsHooks w₀.deployments.length (hooked ++ [n]) w₀ w' := by
  have hconfig := h.agent.config_eq
  cases hon : c.enabled.truthy with
  | false =>
    refine .inl ⟨_, _, installHooks_of_disabled (by rw [hconfig]; exact hon), fun j => ?_⟩
    rw [AgentConfig.hints_of_disabled hon, ite_self, List.append_nil, registered, h.hooks,
      registered]
  | true =>
    rcases installHooks_cases (w := w) (i := w₀.deployments.length) (by rw [hconfig]; exact hon)
      with ⟨w', hrun, hw'⟩ | ⟨hooked, n, rest, f, w', hnames, hrun, hw'⟩
    · rw [h.newHints] at hw'
      exact .inl ⟨_, w', hrun, hw'.addsHooks h.hooks⟩
    · rw [h.newHints] at hnames
      exact .inr ⟨hooked, n, rest, f, w', hnames, hrun, hw'.addsHooks h.hooks⟩

/-- A start-up ends in one of these ways, and leaves the channel as it has set it. -/
theorem startUp_cases (modules : List InstrumentationModule) {config : Option AgentConfig}
    {environment : Table String} (hconfig : configFor config environment = .ok c) (w : World) :
    StartsUp modules w (.ok c) (startUp modules config environment w).1
      (startUp modules config environment w).2 ∧
    LogChannel.sameSettings.allows true (w.channelFor c)
      (startUp modules config environment w).2.run.channel := by
  have hbegun : Registering c w (c.enabledAmong []) (w.begun c) := .begun w c
  rw [startUp_of_ok hconfig]
  rcases hbegun.forEach_register AgentConfig.admits_nil modules with
    ⟨v, hrun, hv, hadmits⟩ | ⟨before, m, after, f, v, hmodules, hrun, hv, hbefore, hm⟩
  · have hkept := installHooks_meets keepsSettings_allows w.deployments.length v
    unfold MeetsAt at hkept
    rw [bind_of_returned hrun, bind_apply]
    rcases hv.installHooks with
      ⟨new, w', hinstall, hhooks⟩ | ⟨hooked, n, rest, f, w', hhints, hinstall, hhooks⟩
    · rw [hinstall] at hkept ⊢
      exact ⟨.started hadmits hhooks, LogChannel.sameSettings.trans hv.settings hkept⟩
    · rw [hinstall] at hkept ⊢
      exact ⟨.unhooked hadmits hhints hhooks, LogChannel.sameSettings.trans hv.settings hkept⟩
  · rw [bind_apply, hrun]
    exact ⟨.refused hmodules hbefore hm hv.hooks, hv.settings⟩

/-- **Start-up.** Whatever the modules and the configuration, a start-up returns with a hook for
every hint of the enabled modules, or it raises. If its configuration cannot be read, nothing has
changed. Otherwise the channel is set as the capture sets it, if one is asked for, and as it was if
none is. A start-up that raises has registered no hook if a module is refused, and only then; where
all modules can be registered, it has registered the hooks up to the hint at which it raises. -/
theorem start_up (modules : List InstrumentationModule) (config : Option AgentConfig)
    (environment : Table String) (w : World) :
    let run := startUp modules config environment w
    StartsUp modules w (configFor config environment) run.1 run.2 ∧
    ∀ c, configFor config environment = .ok c →
      LogChannel.sameSettings.allows true (w.channelFor c) run.2.run.channel ∧
      (c.captureDiagnostics.truthy = false →
        run.2.run.channel.handlers = w.run.channel.handlers ∧
        run.2.run.channel.level = w.run.channel.level ∧
        run.2.run.channel.propagates = w.run.channel.propagates) ∧
      ∀ f, run.1 = .raised f →
        (AddsHooks w.deployments.length [] w run.2 ↔ ¬c.Admits (w.channelFor c) modules) := by
  intro run
  cases hconfig : configFor config environment with
  | error f =>
    have hrun : run = (.raised f, w) := startUp_of_error hconfig modules w
    rw [hrun]
    exact ⟨.unread f, nofun⟩
  | ok c =>
    obtain ⟨hends, hsettings⟩ := startUp_cases modules hconfig w
    refine ⟨hends, fun c' hc => ?_⟩
    cases hc
    refine ⟨hsettings, fun hcapture => ?_, fun f hf => ?_⟩
    · obtain ⟨archives, passedOn, hchannel⟩ := hsettings
      rw [channelFor, hcapture] at hchannel
      rw [hchannel]
      exact ⟨rfl, rfl, rfl⟩
    · have hraised : StartsUp modules w (.ok c) (.raised f) run.2 := hf ▸ hends
      exact hraised.addsNone_iff

/-- Two modules have one name and diagnostics are to be captured: the start-up raises and leaves the
handler of its capture behind. -/
theorem capture_left_of_duplicate :
    let m : InstrumentationModule := ⟨"m", []⟩
    let c : AgentConfig := { captureDiagnostics := .bool true }
    let w : World := {}
    let run := startUp [m, m] (some c) [] w
    run.1 = .raised (.duplicateModule "m") ∧
      w.run.channel.handlers = [] ∧ run.2.run.channel.handlers ≠ [] ∧
      w.run.channel.level = 0 ∧ run.2.run.channel.level = warningLevel ∧
      w.run.channel.propagates = true ∧ run.2.run.channel.propagates = false :=
  ⟨rfl, rfl, List.cons_ne_nil _ _, rfl, rfl, rfl, rfl⟩

end World

end AspectAgent
