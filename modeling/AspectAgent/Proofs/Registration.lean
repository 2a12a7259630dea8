import AspectAgent.Proofs.ReliableLogging

/-!
# Registration of modules

An agent has the descriptors of the modules that it has accepted, in the order of registration. A
module is accepted if it is enabled and its name is new; a registration that is declined, or fails,
leaves the agent as it is.
-/

namespace AspectAgent.Agent

open Act

section Register

variable {a : Agent} {m : InstrumentationModule}

theorem register_of_disabled (h : a.config.isModuleEnabled m.name = false) (r : Run) :
    a.register m r =
      (Outcome.ofExcept ((r.channel.verdict (disabledRecord m.name)).map fun _ => (false, a)),
        { r with channel := r.channel.logged (disabledRecord m.name) }) := by
  have hreport : report (disabledRecord m.name) r =
      (Outcome.ofExcept (r.channel.verdict (disabledRecord m.name)),
        { r with channel := r.channel.logged (disabledRecord m.name) }) :=
    report_of_plain (disabledRecord_isPlain m.name) r
  rw [register, h, Bool.not_false, if_pos rfl, bind_apply, hreport]
  cases r.channel.verdict (disabledRecord m.name) <;> rfl

theorem register_of_taken (h : a.config.isModuleEnabled m.name = true)
    (htaken : a.hasModule m.name = true) (r : Run) :
    a.register m r = (.raised (.duplicateModule m.name), r) := by
  rw [register, h, htaken]
  rfl

theorem register_of_new (h : a.config.isModuleEnabled m.name = true)
    (hnew : a.hasModule m.name = false) (r : Run) :
    a.register m r = (.returned (true, a.add m), r) := by
  rw [register, h, hnew]
  rfl

end Register

variable (a : Agent) (m : InstrumentationModule) (r : Run)

/-- The agent after a registration; one that fails leaves it as it was. -/
def after : Agent :=
  match (a.register m r).1 with
  | .returned (_, a') => a'
  | _ => a

/-- Is the module accepted? -/
def accepts : Bool :=
  match (a.register m r).1 with
  | .returned (accepted, _) => accepted
  | _ => false

theorem accepts_eq : a.accepts m r = (a.config.isModuleEnabled m.name && !a.hasModule m.name) := by
  unfold accepts register
  cases a.config.isModuleEnabled m.name with
  | false =>
    simp only [Bool.not_false, if_true, Act.bind_apply]
    rcases report (disabledRecord m.name) r with ⟨_ | _ | _, _⟩ <;> rfl
  | true => cases a.hasModule m.name <;> rfl

theorem after_eq : a.after m r = if a.accepts m r then a.add m else a := by
  rw [accepts_eq]
  unfold after register
  cases a.config.isModuleEnabled m.name with
  | false =>
    simp only [Bool.not_false, if_true, Act.bind_apply]
    rcases report (disabledRecord m.name) r with ⟨_ | _ | _, _⟩ <;> rfl
  | true => cases a.hasModule m.name <;> rfl

/-- The agents that registrations lead to, with the modules that have been accepted. -/
inductive Registered (config : AgentConfig) (guard : Nat) :
    List InstrumentationModule → Agent → Prop
  | new : Registered config guard [] { config := config, guard := guard }
  | register {ms a} (h : Registered config guard ms a) (m : InstrumentationModule) (r : Run) :
    Registered config guard (if a.accepts m r then ms ++ [m] else ms) (a.after m r)

variable {config : AgentConfig} {guard : Nat} {ms : List InstrumentationModule} {a m r}

theorem Registered.modules (h : Registered config guard ms a) : a.modules = ms := by
  induction h with
  | new => rfl
  | register h m r ih =>
    rw [after_eq]
    split
    · rw [add, ih]
    · exact ih

theorem Registered.descriptors (h : Registered config guard ms a) :
    a.descriptors = ms.flatMap InstrumentationModule.descriptors := by
  induction h with
  | new => rfl
  | register h m r ih =>
    rw [after_eq]
    split
    · rw [add, ih, List.flatMap_append, List.flatMap_singleton]
    · exact ih

theorem Registered.config_eq (h : Registered config guard ms a) : a.config = config := by
  induction h with
  | new => rfl
  | register h m r ih =>
    rw [after_eq]
    split
    · exact ih
    · exact ih

/-- A module is accepted if it is enabled and none of its name has been. -/
theorem Registered.accepts_iff (h : Registered config guard ms a) : a.accepts m r = true ↔
    config.isModuleEnabled m.name = true ∧ m.name ∉ ms.map InstrumentationModule.name := by
  rw [accepts_eq, h.config_eq, hasModule, h.modules]
  simp

theorem Registered.hasModule_iff (h : Registered config guard ms a) (name : String) :
    a.hasModule name = true ↔ name ∈ ms.map InstrumentationModule.name := by
  rw [hasModule, h.modules]
  simp

theorem Registered.add (h : Registered config guard ms a)
    (hon : config.isModuleEnabled m.name = true)
    (hnew : m.name ∉ ms.map InstrumentationModule.name) :
    Registered config guard (ms ++ [m]) (a.add m) := by
  have haccepts : a.accepts m {} = true := h.accepts_iff.mpr ⟨hon, hnew⟩
  have hregistered := h.register m {}
  rwa [after_eq, if_pos haccepts, if_pos haccepts] at hregistered

end AspectAgent.Agent
