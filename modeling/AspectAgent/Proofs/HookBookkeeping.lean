import AspectAgent.Proofs.Deployments
import Mathlib.Data.String.Basic

/-!
# The bookkeeping of hooks

An installation first marks all hinted modules that are new as hooked, and then registers their
hooks one by one. Each turn registers its hook before anything in it can fail. So an installation
that returns has registered a hook for each name that it has marked. One that raises has registered
those up to the name at which it raised; the names after this one stay marked, and as a marked name
is never new again, none of them gets a hook later.

Nothing else that happens to a world registers a hook or marks a name.
-/

namespace AspectAgent

open Act Contract

namespace NameSet

variable {s : NameSet} {n : String}

theorem pairwise_insert (hs : s.Pairwise (· < ·)) : (s.insert n).Pairwise (· < ·) := by
  induction s with
  | nil => exact List.pairwise_singleton _ n
  | cons m rest ih =>
    obtain ⟨hm, hrest⟩ := List.pairwise_cons.mp hs
    rw [insert]
    split
    · exact hs
    · rename_i hne
      split
      · rename_i hlt
        refine List.pairwise_cons.mpr ⟨fun k hk => ?_, hs⟩
        rcases List.mem_cons.mp hk with rfl | hk
        · exact hlt
        · exact hlt.trans (hm k hk)
      · rename_i hnlt
        refine List.pairwise_cons.mpr ⟨fun k hk => ?_, ih hrest⟩
        rcases mem_insert.mp hk with rfl | hk
        · exact lt_of_le_of_ne (not_lt.mp hnlt) (Ne.symm hne)
        · exact hm k hk

theorem nodup_ofList (names : List String) : (ofList names).Nodup := by
  have hsorted : ∀ (names : List String) (s : NameSet), s.Pairwise (· < ·) →
      (names.foldl insert s).Pairwise (· < ·) := by
    intro names
    induction names with
    | nil => exact fun _ hs => hs
    | cons n rest ih => exact fun s hs => ih _ (pairwise_insert hs)
  exact (hsorted names [] .nil).imp fun h => ne_of_lt h

end NameSet

theorem Agent.nodup_moduleHints (a : Agent) : a.moduleHints.Nodup := NameSet.nodup_ofList _

namespace World

/-- The modules for which a deployment has registered hooks, in the order of registration. -/
def registered (w : World) (i : Nat) : List String :=
  (w.hooks.filter fun h => h.deployment = i).map ImportHook.module

/-! ## What registers hooks -/

/-- A deployment registers hooks for some modules. No names are marked, and nothing is registered
for other deployments. -/
structure Registers (i : Nat) (names : List String) (w w' : World) : Prop where
  registered : w'.registered i = w.registered i ++ names
  others : ∀ j, i ≠ j → w'.registered j = w.registered j
  hooked : ∀ j, (w'.deployment j).hooked = (w.deployment j).hooked
  hints : ∀ j, (w'.deployment j).agent.moduleHints = (w.deployment j).agent.moduleHints

namespace Registers

variable {i j : Nat} {names names' : List String} {w w' w'' : World}

theorem trans (h : Registers i names w w') (h' : Registers i names' w' w'') :
    Registers i (names ++ names') w w'' where
  registered := by rw [h'.registered, h.registered, List.append_assoc]
  others j hj := (h'.others j hj).trans (h.others j hj)
  hooked j := (h'.hooked j).trans (h.hooked j)
  hints j := (h'.hints j).trans (h.hints j)

theorem of_hooks (hhooks : w'.hooks = w.hooks)
    (hhooked : ∀ j, (w'.deployment j).hooked = (w.deployment j).hooked)
    (hhints : ∀ j, (w'.deployment j).agent.moduleHints = (w.deployment j).agent.moduleHints) :
    Registers i [] w w' := by
  have hregistered : ∀ j, w'.registered j = w.registered j := fun j => by
    rw [World.registered, hhooks, World.registered]
  exact ⟨by rw [hregistered, List.append_nil], fun j _ => hregistered j, hhooked, hhints⟩

end Registers

/-- No hook is registered. -/
def registersNone (k : Nat) : Contract World where
  allows _ w w' := Registers k [] w w'
  refl _ _ := .of_hooks rfl (fun _ => rfl) fun _ => rfl
  trans h h' := h.trans h'

theorem Registers.of_modify {k : Nat} (i : Nat) {g : Deployment → Deployment}
    (hhooked : ∀ d, (g d).hooked = d.hooked)
    (hhints : ∀ d, (g d).agent.moduleHints = d.agent.moduleHints) (w : World) :
    Registers k [] w (w.modifyDeployment i g) :=
  .of_hooks rfl (part_modifyDeployment Deployment.hooked hhooked w i)
    (part_modifyDeployment (fun d => d.agent.moduleHints) hhints w i)

/-- Hooks that wait no longer are still registered. -/
theorem registered_releaseHooks (name : String) (w : World) (j : Nat) :
    (w.releaseHooks name).registered j = w.registered j := by
  have hrelease : ∀ h : ImportHook,
      let h' := if h.module = name then { h with waits := false } else h
      h'.deployment = h.deployment ∧ h'.module = h.module := by
    intro h
    dsimp only
    split <;> exact ⟨rfl, rfl⟩
  unfold registered releaseHooks
  simp only [List.filter_map, List.map_map]
  refine (congrArg (List.map _) (List.filter_congr fun h _ => ?_)).trans
    (List.map_congr_left fun h _ => (hrelease h).2)
  simp [(hrelease h).1]

theorem weaving_registersNone (k i : Nat) {α : Type} (x : Act Loom α) :
    (registersNone k).Meets (weaving i x) := fun w =>
  .of_hooks rfl (fun j => part_setLoom Deployment.hooked (fun _ _ => rfl) w i j _)
    fun j => part_setLoom (fun d => d.agent.moduleHints) (fun _ _ => rfl) w i j _

/-- Hooks and imports register nothing. -/
theorem registersNone_allows (k : Nat) : AllowsImports (registersNone k) where
  transform i c := meets_read fun w => weaving_registersNone k i _ w
  run _ _ _ _ := .of_hooks rfl (fun _ => rfl) fun _ => rfl
  sites i sites w := .of_modify i (g := fun d => { d with sites := d.sites ++ sites })
    (fun _ => rfl) (fun _ => rfl) w
  imported _ _ := .of_hooks rfl (fun _ => rfl) fun _ => rfl
  released w name :=
    ⟨by rw [registered_releaseHooks, List.append_nil], fun j _ => registered_releaseHooks name w j,
      fun _ => rfl, fun _ => rfl⟩

/-! ## Installations -/

variable {i : Nat} {w w' : World} {names rest : List String}

/-- A hook is registered before it runs. -/
theorem addHook_registers (i : Nat) (n : String) (w : World) :
    Registers i [n] w (addHook i n w).2 := by
  have hadded : Registers i [n] w (w.withHook i n) := by
    refine ⟨?_, fun j hj => ?_, fun _ => rfl, fun _ => rfl⟩
    · simp [withHook, registered]
    · simp [withHook, registered, hj]
  rw [addHook_apply]
  cases w.imported.get? n with
  | some m => exact hadded.trans (onImport_meets (registersNone_allows i).toAllowsHooks i m _)
  | none => exact hadded

theorem hook_registers (i : Nat) (n : String) (w : World) : Registers i [n] w (hook i n w).2 := by
  have hadded := addHook_registers i n w
  rw [hook, bind_apply]
  rcases hrun : addHook i n w with ⟨o, v⟩
  rw [hrun] at hadded
  cases o with
  | returned _ => exact hadded.trans (report_meets (registersNone_allows i).toAllowsHooks _ v)
  | raised f => exact hadded
  | unfinished => exact hadded

theorem hook_ends (i : Nat) (n : String) : (hook i n).EndsIn fun _ => True := by
  refine endsIn_bind (endsIn_read fun w => endsIn_bind (endsIn_change _) fun _ => ?_)
    fun _ => report_ends _
  cases w.imported.get? n with
  | some m => exact onImport_ends i m
  | none => exact endsIn_pure ()

/-- A loop over names registers hooks for all of them if it returns, and if it raises, for those up
to the name at which it does. -/
theorem hookAll_cases (i : Nat) (names : List String) (w : World) :
    (∃ w', forEach names (hook i) w = (.returned (), w') ∧ Registers i names w w') ∨
    ∃ before n after f w', names = before ++ n :: after ∧
      forEach names (hook i) w = (.raised f, w') ∧ Registers i (before ++ [n]) w w' := by
  induction names generalizing w with
  | nil => exact .inl ⟨w, rfl, .of_hooks rfl (fun _ => rfl) fun _ => rfl⟩
  | cons n rest ih =>
    have hn := hook_registers i n w
    have hends := hook_ends i n w
    rw [forEach_cons, bind_apply]
    rcases hrun : hook i n w with ⟨o, v⟩
    rw [hrun] at hn hends
    rcases hends with ⟨a, rfl⟩ | ⟨f, rfl, -⟩
    · rcases ih v with ⟨w', hrun, hrest⟩ | ⟨before, n', after, f, w', hnames, hrun, hrest⟩
      · exact .inl ⟨w', hrun, hn.trans hrest⟩
      · exact .inr ⟨n :: before, n', after, f, w', by rw [hnames]; rfl, hrun, hn.trans hrest⟩
    · exact .inr ⟨[], n, rest, f, v, rfl, rfl, hn⟩

/-- All new hints are marked, and hooks are registered for some names. -/
structure Marks (i : Nat) (names : List String) (w w' : World) : Prop where
  registered : w'.registered i = w.registered i ++ names
  hooked : ∀ n, n ∈ (w'.deployment i).hooked ↔ n ∈ (w.deployment i).hooked ∨ n ∈ w.newHints i
  hints : (w'.deployment i).agent.moduleHints = (w.deployment i).agent.moduleHints
  others : ∀ j, i ≠ j → w'.registered j = w.registered j ∧
    (w'.deployment j).hooked = (w.deployment j).hooked

theorem mem_newHints {n : String} : n ∈ w.newHints i ↔
    n ∈ (w.deployment i).agent.moduleHints ∧ n ∉ (w.deployment i).hooked := by
  simp [newHints]

theorem nodup_newHints (w : World) (i : Nat) : (w.newHints i).Nodup :=
  (Agent.nodup_moduleHints _).filter _

/-- Once the new hints are marked, to register hooks is all that is left to do. -/
theorem marks_of_registers (h : Registers i names (w.modifyDeployment i fun d =>
    { d with hooked := d.hooked.union (w.newHints i) }) w') : Marks i names w w' := by
  let g := fun d : Deployment => { d with hooked := d.hooked.union (w.newHints i) }
  have hhooked : ∀ n, n ∈ ((w.modifyDeployment i g).deployment i).hooked ↔
      n ∈ (w.deployment i).hooked ∨ n ∈ w.newHints i := by
    intro n
    by_cases hi : i < w.deployments.length
    · rw [deployment_modify hi]
      exact NameSet.mem_union
    · -- no such agent has been deployed, and it has no hints
      have hlength : (w.modifyDeployment i g).deployments.length ≤ i := by
        simpa [modifyDeployment] using hi
      rw [mem_newHints, deployment_of_le hlength, deployment_of_le (by omega)]
      simp [Agent.moduleHints, NameSet.ofList]
  refine ⟨h.registered, fun n => ?_, ?_, fun j hj => ⟨h.others j hj, ?_⟩⟩
  · rw [h.hooked]
    exact hhooked n
  · rw [h.hints]
    exact part_modifyDeployment (fun d => d.agent.moduleHints) (g := g) (fun _ => rfl) w i i
  · rw [h.hooked, deployment_modify_of_ne hj]

/-- An installation registers hooks for all new hints if it returns, and if it raises, for those up
to the one at which it does. -/
theorem installHooks_cases (hon : (w.deployment i).agent.config.enabled.truthy = true) :
    (∃ w', installHooks i w = (.returned (w.newHints i), w') ∧ Marks i (w.newHints i) w w') ∨
    ∃ before n after f w', w.newHints i = before ++ n :: after ∧
      installHooks i w = (.raised f, w') ∧ Marks i (before ++ [n]) w w' := by
  rw [installHooks_of_enabled hon, bind_apply]
  rcases hookAll_cases i (w.newHints i) (w.modifyDeployment i fun d =>
    { d with hooked := d.hooked.union (w.newHints i) }) with
    ⟨w', hrun, hw'⟩ | ⟨before, n, after, f, w', hnames, hrun, hw'⟩
  · rw [hrun]
    exact .inl ⟨w', rfl, marks_of_registers hw'⟩
  · rw [hrun]
    exact .inr ⟨before, n, after, f, w', hnames, rfl, marks_of_registers hw'⟩

/-- However an installation ends, it has marked the new hints and registered some hooks. -/
theorem installHooks_marks (hon : (w.deployment i).agent.config.enabled.truthy = true) :
    ∃ names, Marks i names w (installHooks i w).2 := by
  rcases installHooks_cases hon with ⟨v, hrun, hv⟩ | ⟨_, _, _, _, v, _, hrun, hv⟩
  · rw [hrun]
    exact ⟨_, hv⟩
  · rw [hrun]
    exact ⟨_, hv⟩

/-! ## Histories -/

/-- What happens to a world: a module of descriptors is registered, hooks are installed, a module is
imported, a class is transformed or one descriptor woven into it, an agent is configured or
deployed; or something else does that concerns no agent. -/
inductive Occurs : World → World → Prop where
  | register (j : Nat) (m : InstrumentationModule) (w : World) : Occurs w (World.register j m w).2
  | install (j : Nat) (w : World) : Occurs w (installHooks j w).2
  | importing (name : String) (w : World) : Occurs w (importModule name w).2
  | transform (j c : Nat) (w : World) : Occurs w (World.transform j c w).2
  | weave (j c : Nat) (d : Descriptor) (w : World) : Occurs w (World.weave j c d w).2
  | configure (j : Nat) (c : AgentConfig) (w : World) : Occurs w (World.configure j c w)
  | deploy (c : AgentConfig) (diagnostics : Option Nat) (w : World) :
      Occurs w (World.deploy c diagnostics w)
  | outside (host : Host) (importable : Table HostModule) (run : Run) (w : World) :
      Occurs w { w with host := host, importable := importable, run := run }

/-- The names that are marked as hooked between two worlds and left without a hook. -/
def leftOut (w : World) (i : Nat) (w' : World) : List String :=
  (w.newHints i).filter fun n => n ∈ (w'.deployment i).hooked && n ∉ w'.registered i

/-- A history of a world, with the names that have been left without a hook in it. -/
inductive History (i : Nat) (w₀ : World) : List String → World → Prop where
  | start : History i w₀ [] w₀
  | occurs {left : List String} {w w' : World} (h : History i w₀ left w) (ho : Occurs w w') :
      History i w₀ (left ++ w.leftOut i w') w'

/-- Hooks and marks of a deployment are the same in both worlds. -/
def SameHooks (i : Nat) (w w' : World) : Prop :=
  w'.registered i = w.registered i ∧ (w'.deployment i).hooked = (w.deployment i).hooked

theorem Registers.sameHooks (h : Registers i [] w w') : SameHooks i w w' :=
  ⟨by rw [h.registered, List.append_nil], h.hooked i⟩

theorem register_sameHooks (i j : Nat) (m : InstrumentationModule) (w : World) :
    SameHooks i w (World.register j m w).2 := by
  obtain ⟨r, hrun | ⟨a, -, hrun⟩⟩ := World.register_cases j m w
  · rw [hrun]
    exact ⟨rfl, rfl⟩
  · rw [hrun]
    exact ⟨rfl, part_modifyDeployment Deployment.hooked (g := fun d => { d with agent := a })
      (fun _ => rfl) { w with run := r } j i⟩

/-- Hooks are registered and names marked in installations only. -/
theorem Occurs.cases (ho : Occurs w w') (i : Nat) : SameHooks i w w' ∨
    (w.deployment i).agent.config.enabled.truthy = true ∧ w' = (installHooks i w).2 := by
  cases ho with
  | register j m => exact .inl (register_sameHooks i j m w)
  | importing name => exact .inl (importModule_meets (registersNone_allows i) name w).sameHooks
  | transform j c => exact .inl ((registersNone_allows i).transform j c w).sameHooks
  | weave j c d =>
    have hweave : (registersNone i).Meets (World.weave j c d) :=
      meets_read fun w => weaving_registersNone i j _ w
    exact .inl (Registers.sameHooks (hweave w))
  | configure j c =>
    exact .inl ⟨rfl, part_modifyDeployment Deployment.hooked
      (g := fun d => { d with agent := { d.agent with config := c } }) (fun _ => rfl) w j i⟩
  | deploy c diagnostics =>
    exact .inl ⟨rfl, part_deploy Deployment.hooked (fun _ => rfl) w i⟩
  | outside host importable run => exact .inl ⟨rfl, rfl⟩
  | install j =>
    cases hon : (w.deployment j).agent.config.enabled.truthy with
    | false => exact .inl (by rw [installHooks_of_disabled hon]; exact ⟨rfl, rfl⟩)
    | true =>
      by_cases hj : j = i
      · subst hj
        exact .inr ⟨hon, rfl⟩
      · obtain ⟨names, hmarks⟩ := installHooks_marks hon
        exact .inl (hmarks.others i hj)

/-- The names with a hook and those that have been left without one are the names marked, each once.
-/
structure Accounted (i : Nat) (left : List String) (w : World) : Prop where
  nodup : (w.registered i ++ left).Nodup
  hooked : ∀ n, n ∈ (w.deployment i).hooked ↔ n ∈ w.registered i ∨ n ∈ left

namespace Accounted

variable {left : List String}

theorem not_mem_of_new {n : String} (h : w.Accounted i left) (hn : n ∈ w.newHints i) :
    n ∉ w.registered i ∧ n ∉ left := by
  rw [← not_or, ← h.hooked]
  exact (mem_newHints.mp hn).2

/-- The names left out by an installation are those for which it has registered no hook. -/
theorem leftOut_eq (h : w.Accounted i left) (hw' : Marks i names w w')
    (hnames : w.newHints i = names ++ rest) : w.leftOut i w' = rest := by
  have hnodup := w.nodup_newHints i
  rw [hnames] at hnodup
  have hdisjoint := List.disjoint_of_nodup_append hnodup
  have hmarked : ∀ n ∈ w.newHints i, n ∈ (w'.deployment i).hooked := fun n hn =>
    (hw'.hooked n).mpr (.inr hn)
  have hserved : names.filter (fun n => n ∈ (w'.deployment i).hooked && n ∉ w'.registered i) =
      [] := by
    refine List.filter_eq_nil_iff.mpr fun n hn => ?_
    simp [hw'.registered, hn]
  have hrest : rest.filter (fun n => n ∈ (w'.deployment i).hooked && n ∉ w'.registered i) =
      rest := by
    refine List.filter_eq_self.mpr fun n hn => ?_
    have hnew : n ∈ w.newHints i := hnames ▸ List.mem_append_right names hn
    have hnot : n ∉ names := fun hmem => hdisjoint hmem hn
    simp [hmarked n hnew, hw'.registered, (h.not_mem_of_new hnew).1, hnot]
  rw [leftOut, hnames, List.filter_append, hserved, hrest, List.nil_append]

theorem marks (h : w.Accounted i left) (hw' : Marks i names w w')
    (hnames : w.newHints i = names ++ rest) : w'.Accounted i (left ++ rest) := by
  constructor
  · rw [hw'.registered]
    have hperm : (w.registered i ++ names ++ (left ++ rest)).Perm
        ((w.registered i ++ left) ++ w.newHints i) := by
      rw [hnames, List.append_assoc, List.append_assoc]
      refine List.Perm.append_left _ ?_
      rw [← List.append_assoc, ← List.append_assoc]
      exact List.perm_append_comm.append_right rest
    rw [hperm.nodup_iff]
    refine h.nodup.append (w.nodup_newHints i) fun n hn hnew => ?_
    obtain ⟨hregistered, hleft⟩ := h.not_mem_of_new hnew
    exact (List.mem_append.mp hn).elim hregistered hleft
  · intro n
    rw [hw'.hooked, hw'.registered, h.hooked, hnames]
    simp only [List.mem_append]
    tauto

theorem leftOut_of_same (hsame : SameHooks i w w') : w.leftOut i w' = [] := by
  refine List.filter_eq_nil_iff.mpr fun n hn => ?_
  simp [hsame.2, (mem_newHints.mp hn).2]

theorem occurs (h : w.Accounted i left) (ho : Occurs w w') :
    w'.Accounted i (left ++ w.leftOut i w') := by
  rcases ho.cases i with hsame | ⟨hon, rfl⟩
  · rw [leftOut_of_same hsame, List.append_nil]
    obtain ⟨hregistered, hhooked⟩ := hsame
    exact ⟨by rw [hregistered]; exact h.nodup, fun n => by rw [hregistered, hhooked, h.hooked]⟩
  · rcases installHooks_cases hon with ⟨v, hrun, hv⟩ | ⟨before, n, after, _, v, hnames, hrun, hv⟩
    · rw [hrun]
      have hall : w.newHints i = w.newHints i ++ [] := (List.append_nil _).symm
      rw [h.leftOut_eq hv hall]
      exact h.marks hv hall
    · rw [hrun]
      have hsplit : w.newHints i = (before ++ [n]) ++ after := by
        rw [hnames, List.append_assoc]
        rfl
      rw [h.leftOut_eq hv hsplit]
      exact h.marks hv hsplit

theorem of_history {w₀ : World} (hregistered : w₀.registered i = [])
    (hhooked : (w₀.deployment i).hooked = []) (hw : History i w₀ left w) :
    w.Accounted i left := by
  induction hw with
  | start =>
    constructor
    · simp [hregistered]
    · simp [hregistered, hhooked]
  | occurs _ ho ih => exact ih.occurs ho

end Accounted

/-- **Bookkeeping of hooks.** In every history, however installations in it have ended, a deployment
has registered one hook for each name that it has marked, but for the names that have been left out:
so the marked names are just those with a hook if none has been left out. Nothing is unmarked. An
installation that returns gives just the names that it has marked, leaves out none of them, and
after it every hint is marked. One that raises leaves out the new names after the one at which it
raises. -/
theorem hook_bookkeeping {left : List String} {w₀ : World} (hregistered : w₀.registered i = [])
    (hhooked : (w₀.deployment i).hooked = []) (hw : History i w₀ left w) :
    (w.registered i).Nodup ∧
    ((∀ n, n ∈ (w.deployment i).hooked ↔ n ∈ w.registered i ∨ n ∈ left) ∧
      ∀ n ∈ left, n ∉ w.registered i) ∧
    ((∀ n, n ∈ (w.deployment i).hooked ↔ n ∈ w.registered i) ↔ left = []) ∧
    (∀ w', Occurs w w' → (w.deployment i).hooked ⊆ (w'.deployment i).hooked ∧
      w.registered i <+: w'.registered i) ∧
    ((w.deployment i).agent.config.enabled.truthy = true →
      (∃ new w', installHooks i w = (.returned new, w') ∧ w.leftOut i w' = [] ∧
        w'.registered i = w.registered i ++ new ∧
        (∀ n, n ∈ new ↔ n ∈ (w'.deployment i).hooked ∧ n ∉ (w.deployment i).hooked) ∧
        ∀ n ∈ (w'.deployment i).agent.moduleHints, n ∈ (w'.deployment i).hooked) ∨
      ∃ before n after f w', w.newHints i = before ++ n :: after ∧
        installHooks i w = (.raised f, w') ∧ w.leftOut i w' = after ∧
        w'.registered i = w.registered i ++ (before ++ [n])) := by
  have h := Accounted.of_history hregistered hhooked hw
  have hdisjoint := List.disjoint_of_nodup_append h.nodup
  refine ⟨h.nodup.of_append_left, ⟨h.hooked, fun n hn hmem => hdisjoint hmem hn⟩, ?_,
    fun w' ho => ?_, fun hon => ?_⟩
  · constructor
    · intro hexact
      refine List.eq_nil_iff_forall_not_mem.mpr fun n hn => ?_
      exact hdisjoint ((hexact n).mp ((h.hooked n).mpr (.inr hn))) hn
    · rintro rfl n
      simp [h.hooked]
  · rcases ho.cases i with ⟨hsame, hmarked⟩ | ⟨hon, rfl⟩
    · rw [hsame, hmarked]
      exact ⟨List.Subset.refl _, List.prefix_refl _⟩
    · obtain ⟨names, hmarks⟩ := installHooks_marks hon
      rw [hmarks.registered]
      exact ⟨fun n hn => (hmarks.hooked n).mpr (.inl hn), List.prefix_append _ _⟩
  · rcases installHooks_cases hon with
      ⟨v, hrun, hv⟩ | ⟨before, n, after, f, v, hnames, hrun, hv⟩
    · refine .inl ⟨_, v, hrun, h.leftOut_eq hv (List.append_nil _).symm, hv.registered, ?_, ?_⟩
      · intro n
        rw [hv.hooked]
        have hnew := (mem_newHints (w := w) (i := i) (n := n)).mp
        tauto
      · intro n hn
        rw [hv.hints] at hn
        rw [hv.hooked, mem_newHints]
        tauto
    · refine .inr ⟨before, n, after, f, v, hnames, hrun, h.leftOut_eq hv ?_, hv.registered⟩
      rw [hnames, List.append_assoc]
      rfl

end World

/-- A module with one descriptor for the classes of each of some host modules. -/
def InstrumentationModule.hinting (name : String) (hints : List String) :
    InstrumentationModule where
  name := name
  descriptors := hints.map fun hint => {
    typeMatcher := ⟨0, .custom "all" (some hint) fun _ => .ok (.bool true)⟩
    methodMatcher := ⟨1, .named "step" none⟩
    advice := .scripted name [] }

namespace World

/-- Each installation raises, but only after its one hook has been registered. -/
theorem hook_bookkeeping_of_raising :
    let w₀ := initial {} debugLevel (some (.requested .value (some "broken")))
    let w₁ := (World.register 0 (.hinting "first" ["alpha"]) w₀).2
    let w₂ := (installHooks 0 w₁).2
    let w₃ := (World.register 0 (.hinting "second" ["alpha", "beta"]) w₂).2
    let w₄ := (installHooks 0 w₃).2
    (∃ f, (installHooks 0 w₁).1 = .raised f) ∧ (∃ f, (installHooks 0 w₃).1 = .raised f) ∧
      w₄.registered 0 = ["alpha", "beta"] ∧
      ∀ n, n ∈ (w₄.deployment 0).hooked ↔ n ∈ w₄.registered 0 := by
  intro w₀ w₁ w₂ w₃ w₄
  have h₁ : History 0 w₀ _ w₁ := .occurs .start (.register 0 _ w₀)
  have h₂ : History 0 w₀ _ w₂ := .occurs h₁ (.install 0 w₁)
  have h₃ : History 0 w₀ _ w₃ := .occurs h₂ (.register 0 _ w₂)
  have h₄ : History 0 w₀ _ w₄ := .occurs h₃ (.install 0 w₃)
  obtain ⟨-, -, hexact, -⟩ := hook_bookkeeping rfl rfl h₄
  exact ⟨Outcome.isRaised_iff.mp (by decide +kernel), Outcome.isRaised_iff.mp (by decide +kernel),
    by decide +kernel, hexact.mpr (by decide +kernel)⟩

/-- Two modules are hinted at, and the debug record of the first hook cannot be logged: the second
name is marked and has no hook, and no later installation gives it one. -/
theorem hook_lost_of_raising :
    let w₀ := initial {} debugLevel (some (.requested .value (some "broken")))
    let w₁ := (World.register 0 (.hinting "first" ["alpha", "beta"]) w₀).2
    let w₂ := (installHooks 0 w₁).2
    (∃ f, (installHooks 0 w₁).1 = .raised f) ∧ (w₂.deployment 0).hooked = ["alpha", "beta"] ∧
      w₂.registered 0 = ["alpha"] ∧ (installHooks 0 w₂).1 = .returned [] ∧
      (installHooks 0 w₂).2.registered 0 = ["alpha"] := by
  intro w₀ w₁ w₂
  have hnone : w₂.newHints 0 = [] := by decide +kernel
  refine ⟨Outcome.isRaised_iff.mp (by decide +kernel), by decide +kernel, by decide +kernel, ?_,
    by decide +kernel⟩
  have hon : (w₂.deployment 0).agent.config.enabled.truthy = true := by decide +kernel
  rcases installHooks_cases hon with ⟨w, hrun, -⟩ | ⟨_, _, _, _, _, hnames, -⟩
  · rw [hrun, hnone]
  · rw [hnone] at hnames
    exact absurd hnames (by simp)

end World

end AspectAgent
