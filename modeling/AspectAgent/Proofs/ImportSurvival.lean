import AspectAgent.Proofs.FaultIsolation
import AspectAgent.Proofs.HookedClasses

/-!
# Imports survive their hooks

A hook reports what fails on its way: a matcher, a weaving, the transformation as a whole. All these
reports are warnings, and the last one is written outside of every handler. So a hook lets nothing
out but the failure of this last warning. Where warnings can be logged it returns; otherwise it
returns if each class of its module can be transformed, or if it can report what the first raises
that cannot.
-/

namespace AspectAgent

open Act

namespace World

variable {w : World} {i : Nat}

/-- **Survival of imports.** Whatever a module declares, and if matchers and handlers raise, but in
ordinary ways only, a hook comes to an end. It returns wherever warnings can be logged. In general
it returns just if each class of the module can be transformed, or else what the transformation of
the first other one raises can be reported. Otherwise it raises the failure of this report. -/
theorem import_survival {m : HostModule} (hi : i < w.deployments.length)
    (hmatchers : ∀ c ∈ m.declaredClasses w.host, ∀ cls, w.host.class? c = some cls →
      ∀ d ∈ (w.deployment i).agent.descriptors, d.FailsOrdinarilyOn cls)
    (hhandlers : w.run.channel.FailsOrdinarily) :
    let ch := w.run.channel
    let fault? := w.firstFault? ch i (m.declaredClasses w.host)
    ((∀ r, r.level = warningLevel → ch.verdict r = .ok ()) →
      (onImport i m w).1 = .returned ()) ∧
    ((onImport i m w).1 = .returned () ↔
      (∀ c ∈ m.declaredClasses w.host, w.CanTransform ch i c) ∨
        ∃ f, fault? = some f ∧ ch.verdict (hookFailedRecord m.name f) = .ok ()) ∧
    ((onImport i m w).1 ≠ .returned () → ∃ f f', fault? = some f ∧
      ch.verdict (hookFailedRecord m.name f) = .error f' ∧ (onImport i m w).1 = .raised f') := by
  intro ch fault?
  have hordinary : ∀ f, fault? = some f → f.isOrdinary = true := by
    intro f hf
    obtain ⟨c, hc, hfault⟩ := List.exists_of_findSome?_eq_some hf
    exact isOrdinary_of_faultOn? hhandlers (hmatchers c hc) hfault
  obtain ⟨w', -, -, hrun⟩ := onImport_notes m hi (logsLike_channel w)
  have hreturned : (onImport i m w).1 = .returned () ↔
      ∀ f, fault? = some f → ch.verdict (hookFailedRecord m.name f) = .ok () := by
    have hreturned : ∀ e : Except Failure Unit,
        Outcome.ofExcept e = .returned () ↔ ∃ u, e = .ok u := by
      rintro (f | ⟨⟩)
      · exact iff_of_false nofun nofun
      · exact iff_of_true rfl ⟨(), rfl⟩
    rw [hrun, hreturned, LogChannel.excuse_isOk_iff]
    refine forall_congr' fun f => ?_
    rw [visitsAnswer_eq_error_iff]
    exact forall_congr' fun hf => and_iff_right (hordinary f hf)
  refine ⟨fun hwarnings => hreturned.mpr fun f _ => hwarnings _ rfl, hreturned.trans ?_, ?_⟩
  · rw [← firstFault?_eq_none_iff]
    cases hfault : fault? with
    | none => exact iff_of_true nofun (.inl hfault)
    | some f => simp [fault?, hfault]
  · intro hraised
    rw [hrun] at hraised ⊢
    dsimp only at hraised ⊢
    cases hanswer : ch.excuse (hookFailedRecord m.name) ()
        (w.visitsAnswer ch i (m.declaredClasses w.host)) with
    | ok _ => exact absurd (congrArg Outcome.ofExcept hanswer) hraised
    | error f' =>
      rcases LogChannel.excuse_eq_error hanswer with ⟨hf, hextra⟩ | ⟨f, hf, -, hverdict⟩
      · rw [hordinary f' (visitsAnswer_eq_error_iff.mp hf)] at hextra
        cases hextra
      · exact ⟨f, f', visitsAnswer_eq_error_iff.mp hf, hverdict, rfl⟩

end World

/-- A module with one class. -/
def HostModule.faulty : HostModule := { name := "app", classes := [0] }

namespace World

/-- A world in which the second method of this class cannot be assigned, with three descriptors for
the class, each of which comes upon a failure. -/
def faulty (handler : Option Failure) : World :=
  (World.register 0 .faulty
    { initial {} warningLevel handler with host := ⟨[.partlyLocked]⟩ }).2

theorem failsOrdinarilyOn_faulty (handler : Option Failure) :
    let w := faulty handler
    ∀ c ∈ HostModule.faulty.declaredClasses w.host, ∀ cls, w.host.class? c = some cls →
      ∀ d ∈ (w.deployment 0).agent.descriptors, d.FailsOrdinarilyOn cls := by
  intro w c hc cls hcls
  have hclasses : HostModule.faulty.declaredClasses w.host = [0] := rfl
  rw [hclasses] at hc
  cases List.mem_singleton.mp hc
  cases hcls
  show ∀ d ∈ InstrumentationModule.faulty.descriptors, d.FailsOrdinarilyOn .partlyLocked
  decide

theorem import_survival_of_faulty :
    let w := faulty none
    0 < w.deployments.length ∧ w.run.channel.FailsOrdinarily ∧
      (onImport 0 .faulty w).1 = .returned () := by
  intro w
  have hnever : w.run.channel.NeverFails := by
    intro h hh fails hfails
    cases List.mem_singleton.mp hh
    cases hfails
  have hhandlers : w.run.channel.FailsOrdinarily := by
    intro h hh fails hfails r f hf
    rw [hnever h hh fails hfails r] at hf
    cases hf
  have hwarnings : ∀ r, r.level = warningLevel → w.run.channel.verdict r = .ok () :=
    fun r _ => LogChannel.verdict_of_neverFails hnever r
  exact ⟨Nat.one_pos, hhandlers,
    (import_survival Nat.one_pos (failsOrdinarilyOn_faulty none) hhandlers).1 hwarnings⟩

/-- A handler that raises on each record lets the failure of a warning out of the hook. -/
theorem import_broken_of_raising :
    let f := Failure.requested .runtime (some "handler broken")
    let w := faulty (some f)
    (∀ c ∈ HostModule.faulty.declaredClasses w.host, ∀ cls, w.host.class? c = some cls →
      ∀ d ∈ (w.deployment 0).agent.descriptors, d.FailsOrdinarilyOn cls) ∧
      w.run.channel.FailsOrdinarily ∧ (onImport 0 .faulty w).1 = .raised f := by
  intro f w
  have hhandlers : w.run.channel.FailsOrdinarily := by
    intro h hh fails hfails r f' hf
    rcases List.mem_cons.mp hh with rfl | hh
    · cases hfails
    · cases List.mem_singleton.mp hh
      cases hfails
      cases hf
      rfl
  exact ⟨failsOrdinarilyOn_faulty (some f), hhandlers, rfl⟩

end World

end AspectAgent
