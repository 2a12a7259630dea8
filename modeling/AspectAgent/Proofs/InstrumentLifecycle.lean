import AspectAgent.Proofs.ActiveSampling
import Mathlib.Logic.ExistsUnique
import Mathlib.Logic.Relation

/-!
# The lifecycle of instruments

Instruments are registered, deregistered and closed in any order, and collections come between. In
every state that is so reached the names in use are those of the active instruments, and a name
belongs to one of these at most. A registration is refused if an active instrument has the name, and
only then. What has been closed stays closed and emits nothing, and a collection finds the samples
of the active instruments in the order of their registration.
-/

namespace AspectAgent

open Act Contract HasMetering Relation

theorem LogRecord.registeredRecord_isPlain (name : String) :
    (Metering.registeredRecord name).IsPlain :=
  isPlain_of_extra rfl
    (by simp [Metering.registeredRecord, Table.keys, standardFields, messageMaker])
    (.inr ⟨_, rfl⟩)

variable {σ K : Type} [HasMetering σ K] [HasChannel σ]

/-- What can happen to instruments: one is registered with a callback that is quiet if there is one,
a name is deregistered, an instrument is closed, or a collection is run. Whatever else happens
leaves the meter and the registries as they are. -/
inductive MeteringStep (callbacks : Interpretation K σ) : σ → σ → Prop where
  | register {st : σ} {registry : Nat} (i : Instrument) {callback : Option K}
      (hlt : registry < (metering st).registries.length)
      (hquiet : ∀ k ∈ callback, Quiet callbacks k) :
      MeteringStep callbacks st (Metering.registering registry i callback st).2
  | deregister (st : σ) (registry : Nat) (name : String) :
      MeteringStep callbacks st (setMetering ((metering st).deregister registry name).2 st)
  | close (st : σ) (number : Nat) :
      MeteringStep callbacks st (setMetering ((metering st).close number) st)
  | collect (st : σ) (time : Value) :
      MeteringStep callbacks st (Collection.collect callbacks time st).2
  | other {st st' : σ} (h : (leavesMetering σ).allows true st st') :
      MeteringStep callbacks st st'

namespace Metering

variable {callbacks : Interpretation K σ} {st st' : σ} {registry number : Nat} {i : Instrument}
  {k : K}

/-! ## Registrations -/

theorem registering_of_taken (h : (metering st).find? registry i.name = some number) :
    registering registry i (some k) st = (.raised (.duplicateInstrument i.name), st) := by
  rw [registering, bind_of_returned (read_apply st), register_of_taken h]
  rfl

theorem registering_of_refused {f : Failure} (h : (metering st).find? registry i.name = none)
    (hrefused : (metering st).meter.refusal? i = some f) (k : K) :
    registering registry i (some k) st = (.raised f, st) := by
  rw [registering, bind_of_returned (read_apply st), register_of_refused h hrefused]
  rfl

/-- A registration under a free name makes the instrument, whatever becomes of its record. -/
theorem registering_eq [LawfulMetering σ] (h : (metering st).find? registry i.name = none)
    (hgranted : (metering st).meter.refusal? i = none) (k : K) :
    registering registry i (some k) st =
      ((Outcome.ofExcept ((HasChannel.channel st).verdict (registeredRecord i.name))).map
          fun _ => (metering st).registered.length,
        HasChannel.setChannel ((HasChannel.channel st).logged (registeredRecord i.name))
          (setMetering ((metering st).added registry i k) st)) := by
  have hreport := report_of_plain (LogRecord.registeredRecord_isPlain i.name)
    (setMetering ((metering st).added registry i k) st)
  rw [LawfulMetering.channel_setMetering] at hreport
  rw [registering, bind_of_returned (read_apply st), register_of_free h hgranted]
  show (report (registeredRecord i.name) >>= fun _ => pure (metering st).registered.length)
    (setMetering ((metering st).added registry i k) st) = _
  rw [bind_apply, hreport]
  cases (HasChannel.channel st).verdict (registeredRecord i.name) <;> rfl

/-- A registration under a free name changes the instruments and diagnostics, and nothing else. -/
theorem registering_apply [LawfulMetering σ] (h : (metering st).find? registry i.name = none)
    (hgranted : (metering st).meter.refusal? i = none) (hsafe : LogsSafely st) :
    registering registry i (some k) st = (.returned (metering st).registered.length,
      HasChannel.setChannel ((HasChannel.channel st).logged (registeredRecord i.name))
        (setMetering ((metering st).added registry i k) st)) := by
  rw [registering_eq h hgranted, LogChannel.verdict_of_neverFails hsafe]
  rfl

theorem registering_of_free [LawfulMetering σ] (h : (metering st).find? registry i.name = none)
    (hgranted : (metering st).meter.refusal? i = none) (hsafe : LogsSafely st) :
    ∃ st', registering registry i (some k) st =
        (.returned (metering st).registered.length, st') ∧
      metering st' = (metering st).added registry i k ∧ LogsSafely st' := by
  refine ⟨_, registering_apply h hgranted hsafe, ?_, ?_⟩
  · rw [LawfulMetering.metering_setChannel, LawfulMetering.metering_setMetering]
  · unfold LogsSafely
    rw [LawfulMetering.channel_setChannel]
    exact hsafe.logged _

/-! ## Runs -/

variable (callbacks) in
/-- The meter and the registries are in step, nothing raises, and all callbacks are quiet. -/
structure Orderly (st : σ) : Prop where
  inStep : (metering st).InStep
  safe : LogsSafely st
  quiet : ∀ r ∈ (metering st).registered, Quiet callbacks r.callback

namespace Orderly

/-- What is collected from on demand refuses no instrument. -/
theorem granted (h : Orderly callbacks st) (i : Instrument) :
    (metering st).meter.refusal? i = none := Meter.refusal?_of_onDemand h.inStep.onDemand i

variable [LawfulMetering σ]

/-- A collection leaves the meter and the registries alone. -/
theorem collect_leavesMetering (h : Orderly callbacks st) (time : Value) :
    (leavesMetering σ).allows true st (Collection.collect callbacks time st).2 := by
  have hquiet : ∀ r ∈ (metering st).activeOnes, Quiet callbacks r.callback :=
    fun r hr => h.quiet r ((List.mem_filter.mp hr).1)
  rw [Collection.collect_eq_sampleAll h.inStep h.quiet rfl h.safe]
  exact Collection.sampleAll_leavesMetering hquiet time st

/-- A step registers an instrument, closes one, or leaves the meter and the registries alone. -/
theorem step_cases (h : Orderly callbacks st) (hstep : MeteringStep callbacks st st') :
    LogsSafely st' ∧
      (metering st' = metering st ∨ (∃ number, metering st' = (metering st).close number) ∨
        ∃ registry i k, registry < (metering st).registries.length ∧
          (metering st).find? registry i.name = none ∧ Quiet callbacks k ∧
          metering st' = (metering st).added registry i k) := by
  have hset : ∀ m, LogsSafely (setMetering m st) := by
    intro m
    unfold LogsSafely
    rw [LawfulMetering.channel_setMetering]
    exact h.safe
  cases hstep with
  | @register registry i callback hlt hquiet =>
    cases callback with
    | none => exact ⟨h.safe, .inl rfl⟩
    | some k =>
      cases hfound : (metering st).find? registry i.name with
      | some number =>
        rw [registering_of_taken hfound]
        exact ⟨h.safe, .inl rfl⟩
      | none =>
        obtain ⟨st', hrun, hadded, hsafe⟩ :=
          registering_of_free hfound (h.granted i) h.safe (k := k)
        rw [hrun]
        exact ⟨hsafe, .inr (.inr ⟨registry, i, k, hlt, hfound, hquiet k rfl, hadded⟩)⟩
  | deregister registry name =>
    refine ⟨hset _, ?_⟩
    rw [LawfulMetering.metering_setMetering]
    rcases (metering st).deregister_eq registry name with hsame | ⟨number, hclose⟩
    · exact .inl hsame
    · exact .inr (.inl ⟨number, hclose⟩)
  | close number =>
    refine ⟨hset _, .inr (.inl ⟨number, ?_⟩)⟩
    rw [LawfulMetering.metering_setMetering]
  | collect time =>
    have hkept := h.collect_leavesMetering time
    exact ⟨hkept.2 h.safe, .inl hkept.1⟩
  | other hother => exact ⟨hother.2 h.safe, .inl hother.1⟩

theorem step (h : Orderly callbacks st) (hstep : MeteringStep callbacks st st') :
    Orderly callbacks st' := by
  obtain ⟨hsafe, hsame | ⟨number, hclose⟩ | ⟨registry, i, k, hlt, hfree, hquiet, hadded⟩⟩ :=
    h.step_cases hstep
  · exact ⟨hsame ▸ h.inStep, hsafe, hsame ▸ h.quiet⟩
  · refine ⟨hclose ▸ h.inStep.close number, hsafe, fun r hr => ?_⟩
    rw [hclose] at hr
    obtain ⟨r', hr', hcallback, -⟩ := mem_registered_close hr
    exact hcallback ▸ h.quiet r' hr'
  · refine ⟨hadded ▸ h.inStep.added hlt hfree k, hsafe, fun r hr => ?_⟩
    rw [hadded] at hr
    rcases List.mem_append.mp hr with hr | hr
    · exact h.quiet r hr
    · rw [List.mem_singleton.mp hr]
      exact hquiet

theorem isClosed_step (h : Orderly callbacks st) (hstep : MeteringStep callbacks st st')
    (hclosed : (metering st).IsClosed number) : (metering st').IsClosed number := by
  obtain ⟨-, hsame | ⟨other, hclose⟩ | ⟨registry, i, k, -, -, -, hadded⟩⟩ := h.step_cases hstep
  · exact hsame ▸ hclosed
  · exact hclose ▸ hclosed.close other
  · exact hadded ▸ hclosed.added registry i k

theorem steps (h : Orderly callbacks st) (hsteps : ReflTransGen (MeteringStep callbacks) st st') :
    Orderly callbacks st' ∧
      ∀ number, (metering st).IsClosed number → (metering st').IsClosed number := by
  induction hsteps with
  | refl => exact ⟨h, fun _ hclosed => hclosed⟩
  | tail _ hstep ih =>
    exact ⟨ih.1.step hstep, fun n hclosed => ih.1.isClosed_step hstep (ih.2 n hclosed)⟩

end Orderly

/-- **Lifecycle of instruments.** Let instruments be registered with quiet callbacks, deregistered
and closed in any order on an on-demand meter, with collections in between, and let no handler
raise. A registry then gives a name to a number if and only if the instrument of the number was made
by the registry under the name and is active; so a name is in use if and only if there is exactly
one such instrument, and there are never two. Registering under a name that is in use is refused and
changes nothing; under any other name it adds an active instrument behind all others. To close an
instrument is to close it alone. What is closed stays closed: to close it again changes nothing, and
it emits nothing in any later state. A collection is that of the active instruments, one after the
other in the order of their registration. -/
theorem instrument_lifecycle [LawfulMetering σ] {st₀ : σ} (hunused : (metering st₀).Unused)
    (hsafe : LogsSafely st₀) (hsteps : ReflTransGen (MeteringStep callbacks) st₀ st) :
    (∀ registry name n, (metering st).find? registry name = some n ↔
      (metering st).ActiveUnder registry name n) ∧
    (∀ registry name, ((metering st).find? registry name).isSome = true ↔
      ∃! n, (metering st).ActiveUnder registry name n) ∧
    (∀ registry name n n', (metering st).ActiveUnder registry name n →
      (metering st).ActiveUnder registry name n' → n = n') ∧
    (∀ registry i k, registry < (metering st).registries.length →
      ((∃ n, (metering st).ActiveUnder registry i.name n) →
        registering registry i (some k) st = (.raised (.duplicateInstrument i.name), st)) ∧
      ((¬∃ n, (metering st).ActiveUnder registry i.name n) →
        ∃ st', registering registry i (some k) st =
            (.returned (metering st).registered.length, st') ∧
          (metering st').registered =
            (metering st).registered ++ [⟨i, k, some registry, true⟩])) ∧
    (∀ number n, number < (metering st).registered.length →
      (((metering st).close number).IsClosed n ↔ (metering st).IsClosed n ∨ n = number)) ∧
    (∀ number, (metering st).IsClosed number →
      (metering st).close number = metering st ∧
      ∀ st', ReflTransGen (MeteringStep callbacks) st st' →
        (metering st').IsClosed number ∧
        ∀ time name, Collection.sampleInstalled callbacks time name (.registered number) st' =
          (.returned [], st')) ∧
    ∀ time, Collection.collect callbacks time st =
      Collection.sampleAll callbacks time (metering st).activeOnes st := by
  have hstart : Orderly callbacks st₀ :=
    ⟨.of_unused hunused, hsafe, by rw [hunused.registered]; exact nofun⟩
  obtain ⟨horderly, -⟩ := hstart.steps hsteps
  have hnamed := horderly.inStep.named
  have hunique : ∀ registry name n n', (metering st).ActiveUnder registry name n →
      (metering st).ActiveUnder registry name n' → n = n' := by
    intro registry name n n' hn hn'
    have hfound := (hnamed registry name n).mpr hn
    exact Option.some.inj (hfound.symm.trans ((hnamed registry name n').mpr hn'))
  refine ⟨hnamed, ?_, hunique, ?_, ?_, ?_, ?_⟩
  · intro registry name
    rw [Option.isSome_iff_exists]
    constructor
    · rintro ⟨n, hn⟩
      have hactive := (hnamed registry name n).mp hn
      exact ⟨n, hactive, fun n' hn' => hunique registry name n' n hn' hactive⟩
    · rintro ⟨n, hn, -⟩
      exact ⟨n, (hnamed registry name n).mpr hn⟩
  · intro registry i k hlt
    constructor
    · rintro ⟨n, hn⟩
      exact registering_of_taken ((hnamed registry i.name n).mpr hn)
    · intro hno
      have hfree : (metering st).find? registry i.name = none :=
        Option.eq_none_iff_forall_ne_some.mpr fun n hn => hno ⟨n, (hnamed registry i.name n).mp hn⟩
      obtain ⟨st', hrun, hadded, -⟩ :=
        registering_of_free hfree (horderly.granted i) horderly.safe (k := k)
      exact ⟨st', hrun, by rw [hadded]; rfl⟩
  · exact fun number n hlt => isClosed_close hlt
  · intro number hclosed
    refine ⟨horderly.inStep.close_of_closed hclosed, fun st' hsteps' => ?_⟩
    have hclosed' := (horderly.steps hsteps').2 number hclosed
    obtain ⟨r, hr, hinactive⟩ := hclosed'
    exact ⟨⟨r, hr, hinactive⟩, fun time name =>
      Collection.sampleInstalled_of_closed hr hinactive name⟩
  · intro time
    exact Collection.collect_eq_sampleAll horderly.inStep horderly.quiet rfl horderly.safe

end Metering

namespace Bench

/-- A callback that records one measurement. -/
def gauge : Callback Unit := .script [.record (.float .one) []]

/-- A pool is registered, closed and registered anew. Then the first registration is closed again.
-/
def reused : Bench Unit Unit :=
  let first := (Metering.registering 0 pool (some gauge) ({} : Bench Unit Unit)).2
  let closed := setMetering (first.metering.close 0) first
  let second := (Metering.registering 0 pool (some gauge) closed).2
  setMetering (second.metering.close 0) second

theorem instrument_lifecycle_of_reuse :
    reused.metering.find? 0 "pool" = some 1 ∧
    Metering.registering 0 pool (some gauge) reused =
      (.raised (.duplicateInstrument "pool"), reused) ∧
    (Collection.collect (interpret fun _ => Act.give ()) .null reused).1 =
      .returned [⟨"pool", .null, .float .one, []⟩] := by
  have hquiet : ∀ k ∈ some gauge, Quiet (interpret fun _ : Unit => Act.give ()) k :=
    fun k _ => quiet_interpret (fun _ => meets_give ()) k
  have hsteps : ReflTransGen (MeteringStep (interpret fun _ : Unit => Act.give ())) {} reused :=
    .tail (.tail (.tail (.tail .refl
      (.register pool Nat.one_pos hquiet)) (.close _ 0)) (.register pool (by decide) hquiet))
      (.close _ 0)
  have hsafe : LogsSafely ({} : Bench Unit Unit) := fun h hh => absurd hh List.not_mem_nil
  obtain ⟨hnamed, -, -, hregister, -, -, hcollect⟩ :=
    Metering.instrument_lifecycle ⟨rfl, rfl, rfl, by decide⟩ hsafe hsteps
  have hactive : reused.metering.ActiveUnder 0 pool.name 1 := ⟨_, rfl, rfl, rfl, rfl⟩
  refine ⟨(hnamed 0 "pool" 1).mpr hactive, (hregister 0 pool gauge (by decide)).1 ⟨1, hactive⟩, ?_⟩
  rw [hcollect]
  rfl

end Bench

end AspectAgent
