import AspectAgent.World
import AspectAgent.Proofs.Transforming

/-!
# Deployments

A change of one deployment leaves the others alone, and so does a transformation, which changes the
host, the run and what one agent has woven. Hooks do no more than transform classes, report, and
note the sites; imports and installations run hooks and change what has been imported, registered or
marked. So a contract that allows these steps is met by hooks, imports and installations.
-/

namespace AspectAgent

open Act Contract

namespace World

variable {w : World} {i j : Nat}

/-! ## Changes of one deployment -/

theorem deployment_modifyDeployment (w : World) (i j : Nat) (g : Deployment → Deployment) :
    (w.modifyDeployment i g).deployment j =
      if i = j ∧ i < w.deployments.length then g (w.deployment j) else w.deployment j := by
  unfold deployment modifyDeployment
  rw [List.getD_eq_getElem?_getD, List.getD_eq_getElem?_getD, List.getElem?_modify]
  by_cases hij : i = j
  · subst hij
    by_cases hi : i < w.deployments.length <;> simp [hi]
  · simp [hij]

theorem deployment_modify (hi : i < w.deployments.length) (g : Deployment → Deployment) :
    (w.modifyDeployment i g).deployment i = g (w.deployment i) := by
  rw [deployment_modifyDeployment, if_pos ⟨rfl, hi⟩]

theorem deployment_modify_of_ne (hij : i ≠ j) (w : World) (g : Deployment → Deployment) :
    (w.modifyDeployment i g).deployment j = w.deployment j := by
  rw [deployment_modifyDeployment, if_neg fun h => hij h.1]

theorem deployment_of_le (hi : w.deployments.length ≤ i) : w.deployment i = {} := by
  simp [deployment, List.getD_eq_getElem?_getD, hi]

/-- A part of a deployment that a change keeps is the same in each deployment after it. -/
theorem part_modifyDeployment {β : Type} (part : Deployment → β) {g : Deployment → Deployment}
    (hg : ∀ d, part (g d) = part d) (w : World) (i j : Nat) :
    part ((w.modifyDeployment i g).deployment j) = part (w.deployment j) := by
  rw [deployment_modifyDeployment]
  split
  · exact hg _
  · rfl

/-- A part that a new deployment does not have otherwise is the same in each deployment after it. -/
theorem part_deploy {β : Type} (part : Deployment → β) {c : AgentConfig} {diagnostics : Option Nat}
    (hpart : ∀ guard,
      part { agent := { config := c, guard := guard }, diagnostics := diagnostics } = part {})
    (w : World) (i : Nat) :
    part ((World.deploy c diagnostics w).deployment i) = part (w.deployment i) := by
  unfold World.deploy deployment
  simp only [List.getD_eq_getElem?_getD, List.getElem?_append]
  by_cases hi : i < w.deployments.length
  · simp [hi]
  · cases i - w.deployments.length <;> simp [hi, hpart]

/-- A transformation is one of the agent on its loom. -/
theorem transform_apply (i c : Nat) (w : World) : transform i c w =
    (((w.deployment i).agent.transform c (w.loom i)).1,
      setLoom i ((w.deployment i).agent.transform c (w.loom i)).2 w) := rfl

theorem deployment_setLoom (hi : i < w.deployments.length) (l : Loom) :
    (setLoom i l w).deployment i =
      { w.deployment i with agent := { (w.deployment i).agent with registry := l.registry } } :=
  deployment_modify (w := { w with host := l.host, run := l.run }) hi _

theorem registry_setLoom (w : World) (i j : Nat) (l : Loom) :
    ((setLoom i l w).deployment j).agent.registry =
      if i = j ∧ i < w.deployments.length then l.registry
      else (w.deployment j).agent.registry := by
  unfold setLoom
  rw [deployment_modifyDeployment]
  by_cases h : i = j ∧ i < w.deployments.length
  · rw [if_pos h, if_pos (by exact h)]
  · rw [if_neg h, if_neg (by exact h)]
    rfl

theorem part_setLoom {β : Type} (part : Deployment → β)
    (hpart : ∀ (d : Deployment) g, part { d with agent := { d.agent with registry := g } } = part d)
    (w : World) (i j : Nat) (l : Loom) :
    part ((setLoom i l w).deployment j) = part (w.deployment j) :=
  part_modifyDeployment part (fun d => hpart d l.registry)
    { w with host := l.host, run := l.run } i j

@[simp] theorem length_setLoom (l : Loom) :
    (setLoom i l w).deployments.length = w.deployments.length := by
  simp [setLoom, modifyDeployment]

/-- A registration runs on the agent of its deployment. -/
theorem register_apply (i : Nat) (m : InstrumentationModule) (w : World) :
    World.register i m w =
      match (w.deployment i).agent.register m w.run with
      | (.returned e, r) => (.returned e.1,
          ({ w with run := r } : World).modifyDeployment i fun d => { d with agent := e.2 })
      | (.raised f, r) => (.raised f, { w with run := r })
      | (.unfinished, r) => (.unfinished, { w with run := r }) := by
  rw [World.register, bind_of_returned (read_apply w), bind_apply]
  unfold running within
  rcases (w.deployment i).agent.register m w.run with ⟨_ | _ | _, r⟩ <;> rfl

/-- A registration changes the run, and leaves the agent as it is or adds the module. -/
theorem register_cases (i : Nat) (m : InstrumentationModule) (w : World) :
    ∃ r, (World.register i m w).2 = { w with run := r } ∨
      ∃ a, (a = (w.deployment i).agent ∨ a = (w.deployment i).agent.add m) ∧
        (World.register i m w).2 = ({ w with run := r } : World).modifyDeployment i fun d =>
          { d with agent := a } := by
  have hregister : ((w.deployment i).agent.register m).Yields fun e =>
      e.2 = (w.deployment i).agent ∨ e.2 = (w.deployment i).agent.add m := by
    unfold Agent.register
    split
    · exact yields_bind (yields_any _) fun _ _ => yields_give (.inl rfl)
    · split
      · exact yields_raise _
      · exact yields_give (.inr rfl)
  rcases hrun : (w.deployment i).agent.register m w.run with ⟨o, r⟩
  refine ⟨r, ?_⟩
  rw [register_apply, hrun]
  cases o with
  | returned e => exact .inr ⟨e.2, hregister _ e r hrun, rfl⟩
  | raised f => exact .inl rfl
  | unfinished => exact .inl rfl

/-! ## Turns of hooks and installations -/

/-- One turn of a hook. -/
def visit (i c : Nat) : Act World Unit := do
  let sites ← transform i c
  Act.change fun w => w.modifyDeployment i fun d => { d with sites := d.sites ++ sites }

/-- A hook visits the classes that its module declares, one by one. -/
theorem onImport_apply (i : Nat) (m : HostModule) (w : World) :
    onImport i m w = orElse (forEach (m.declaredClasses w.host) (visit i))
      (fun f => report (hookFailedRecord m.name f)) w := rfl

/-- The hook of a deployment for a module is registered. It waits unless the module has been
imported. -/
def withHook (i : Nat) (n : String) (w : World) : World :=
  { w with hooks := w.hooks ++ [⟨n, i, (w.imported.get? n).isNone⟩] }

/-- A hook is registered, and runs at once if its module has been imported. -/
theorem addHook_apply (i : Nat) (n : String) (w : World) : addHook i n w =
    (match w.imported.get? n with
      | some m => onImport i m
      | none => pure () : Act World Unit) (w.withHook i n) := rfl

/-- The hinted modules that a deployment has not marked as hooked. -/
def newHints (w : World) (i : Nat) : NameSet :=
  (w.deployment i).agent.moduleHints.filter fun n => !(w.deployment i).hooked.contains n

/-- One turn of an installation. -/
def hook (i : Nat) (n : String) : Act World Unit := do
  addHook i n
  report (hookRecord n)

theorem installHooks_of_disabled (hoff : (w.deployment i).agent.config.enabled.truthy = false) :
    installHooks i w = (.returned [], w) := by
  rw [installHooks, bind_of_returned (read_apply w), hoff]
  rfl

/-- An installation marks the new hints, takes a turn for each of them and returns them. -/
theorem installHooks_of_enabled (hon : (w.deployment i).agent.config.enabled.truthy = true) :
    installHooks i w = (forEach (w.newHints i) (hook i) >>= fun _ => pure (w.newHints i))
      (w.modifyDeployment i fun d => { d with hooked := d.hooked.union (w.newHints i) }) := by
  rw [installHooks, bind_of_returned (read_apply w), hon]
  rfl

/-! ## What hooks, imports and installations may do -/

section Contract

variable {C : Contract World}

/-- A contract under which hooks may run. -/
structure AllowsHooks (C : Contract World) : Prop where
  transform : ∀ i c, C.Meets (transform i c)
  run : ∀ b w r, (keepsSettings Run).allows b w.run r → C.allows b w { w with run := r }
  sites : ∀ i sites w, C.allows true w
    (w.modifyDeployment i fun d => { d with sites := d.sites ++ sites })

/-- A contract under which modules may be imported. -/
structure AllowsImports (C : Contract World) : Prop extends AllowsHooks C where
  imported : ∀ w imported, C.allows true w { w with imported := imported }
  released : ∀ w name, C.allows true w (w.releaseHooks name)

theorem report_meets (hC : AllowsHooks C) (r : LogRecord) : C.Meets (report r) :=
  fun w => hC.run _ w _ (LogChannel.sameSettings_log w.run.channel r)

theorem visit_meets (hC : AllowsHooks C) (i c : Nat) : C.Meets (visit i c) :=
  meets_bind (hC.transform i c) fun sites => meets_change fun w => hC.sites i sites w

theorem onImport_meets (hC : AllowsHooks C) (i : Nat) (m : HostModule) : C.Meets (onImport i m) :=
  meets_read fun w => meets_orElse (meets_forEach _ fun c _ => visit_meets hC i c)
    (fun _ => report_meets hC _) w

theorem load_meets (hC : AllowsImports C) (name : String) : C.Meets (load name) := by
  refine meets_read fun w => ?_
  split
  · exact meets_pure _ w
  · split
    · exact meets_raise _ w
    · rename_i m _
      have hbegun : C.Meets (change fun w =>
          ({ w with imported := w.imported.put name m } : World).releaseHooks name) :=
        meets_change fun w => C.trans (hC.imported w _) (hC.released _ name)
      have hfired : ∀ hooks, C.Meets (attempt (forEach hooks fun i => onImport i m)) := fun hooks =>
        meets_attempt (meets_forEach _ fun i _ => onImport_meets hC.toAllowsHooks i m)
      refine meets_bind hbegun (fun _ => meets_bind (hfired _) fun fired => ?_) w
      cases fired with
      | ok _ => exact meets_pure _
      | error f => exact meets_bind (meets_change fun w => hC.imported w _) fun _ => meets_raise f

theorem importModule_meets (hC : AllowsImports C) (name : String) :
    C.Meets (importModule name) := by
  unfold importModule
  split
  · exact meets_raise _
  · split
    · exact meets_raise _
    · exact meets_forEach _ fun n _ => load_meets hC n

/-- A contract under which hooks may be installed. -/
structure AllowsInstallations (C : Contract World) : Prop extends AllowsImports C where
  marked : ∀ i hooked w, C.allows true w
    (w.modifyDeployment i fun d => { d with hooked := d.hooked.union hooked })
  added : ∀ w hooks, C.allows true w { w with hooks := hooks }

theorem addHook_meets (hC : AllowsInstallations C) (i : Nat) (module : String) :
    C.Meets (addHook i module) := by
  refine meets_read fun w => meets_bind (meets_change fun w => hC.added w _) (fun _ => ?_) w
  cases w.imported.get? module with
  | some m => exact onImport_meets hC.toAllowsHooks i m
  | none => exact meets_pure _

theorem hook_meets (hC : AllowsInstallations C) (i : Nat) (n : String) : C.Meets (hook i n) :=
  meets_bind (addHook_meets hC i n) fun _ => report_meets hC.toAllowsHooks _

theorem installHooks_meets (hC : AllowsInstallations C) (i : Nat) : C.Meets (installHooks i) := by
  refine meets_read fun w => ?_
  dsimp only
  split
  · exact meets_pure _ w
  · exact meets_bind (meets_change fun w => hC.marked i _ w)
      (fun _ => meets_bind (meets_forEach _ fun n _ => hook_meets hC i n) fun _ => meets_pure _) w

end Contract

/-! ## Hooks come to an end -/

theorem transform_ends (i c : Nat) : (transform i c).EndsIn fun _ => True :=
  endsIn_read fun _ => endsIn_within (Loom.transform_ends _ c)

theorem visit_ends (i c : Nat) : (visit i c).EndsIn fun _ => True :=
  endsIn_bind (transform_ends i c) fun _ => endsIn_change _

/-- Every hook comes to an end. -/
theorem onImport_ends (i : Nat) (m : HostModule) : (onImport i m).EndsIn fun _ => True :=
  endsIn_read fun _ => endsIn_orElse (R := fun _ => True)
    (endsIn_forEach _ fun c _ => visit_ends i c) (fun _ _ _ => report_ends _) fun _ _ _ => trivial

end World

end AspectAgent
