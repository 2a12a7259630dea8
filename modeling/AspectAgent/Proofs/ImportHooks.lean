import AspectAgent.Proofs.WorldInOrder

/-!
# Hooks on imports

In a world in order an installation runs the hooks of the modules that have been imported and lets
the others wait; an import runs the hook that waits for the module. So each module that has been
asked about is served: its hook waits for the import, or has left every class done that the module
reaches.
-/

namespace AspectAgent

open Act Contract HostModule

variable {made : Nat → Matcher}

namespace World

variable {w : World}

/-! ## Installations -/

/-- The hook of a module waits for the import, or has left every class done that the module reaches.
-/
def IsServed (w : World) (n : String) : Prop :=
  (w.imported.get? n = none → 0 ∈ w.waitingFor n) ∧
    ∀ m, w.imported.get? n = some m → ∀ c, m.Reaches w.host c → w.IsDone c

theorem Hooks.isServed {into : Nat → Prop} {w w' : World} {n : String} (h : Hooks into w w')
    (hn : w.IsServed n) : w'.IsServed n := by
  unfold IsServed
  rw [h.imported]
  exact ⟨fun hnone => h.waiting n (hn.1 hnone),
    fun m hm c hc => h.isDone (hn.2 m hm c (reaches_of_unwoven_eq h.unwoven.symm hc))⟩

theorem hookRecord_isPlain (module : String) : (hookRecord module).IsPlain :=
  LogRecord.isPlain_of_extra rfl (by simp [hookRecord, Table.keys]) (.inr ⟨_, rfl⟩)

/-- The classes that the imported modules of some names reach. -/
def ReachedBy (w : World) (names : NameSet) (c : Nat) : Prop :=
  ∃ n ∈ names, ∃ m, w.imported.get? n = some m ∧ m.Reaches w.host c

theorem mem_waitingFor {n : String} : 0 ∈ w.waitingFor n ↔ ⟨n, 0, true⟩ ∈ w.hooks := by
  unfold waitingFor
  simp only [List.mem_map, List.mem_filter, Bool.and_eq_true, beq_iff_eq]
  constructor
  · rintro ⟨⟨_, _, _⟩, ⟨hmem, rfl, rfl⟩, rfl⟩
    exact hmem
  · exact fun hmem => ⟨_, ⟨hmem, rfl, rfl⟩, rfl⟩

/-- A hook that is added is served. -/
theorem InOrder.addHook (h : w.InOrder made) (hmade : ∀ n s, ((made n).test s).FailsOrdinarily)
    {n : String} (hn : n ∈ (w.deployment 0).hooked) :
    ∃ w', World.addHook 0 n w = (.returned (), w') ∧ w'.InOrder made ∧
      Hooks (w.ReachedBy [n]) w w' ∧ w'.IsServed n := by
  let added := w.withHook 0 n
  have hadded : added.InOrder made := by
    refine ⟨h.single, h.enabled, h.descriptors, h.complete, h.safe, fun x hx => ?_⟩
    rcases List.mem_append.mp hx with hx | hx
    · exact h.hooks x hx
    · rw [List.mem_singleton.mp hx]
      exact ⟨rfl, hn⟩
  have hhooks : Hooks (w.ReachedBy [n]) w added :=
    ⟨⟨rfl, rfl, fun _ _ _ hk => hk, fun _ _ => rfl⟩, rfl, rfl, rfl,
      fun n' hn' => mem_waitingFor.mpr (List.mem_append_left _ (mem_waitingFor.mp hn'))⟩
  cases hfound : w.imported.get? n with
  | none =>
    refine ⟨added, by rw [addHook_apply, hfound]; rfl, hadded, hhooks, fun _ => ?_, fun m hm => ?_⟩
    · refine mem_waitingFor.mpr (List.mem_append_right _ ?_)
      rw [hfound]
      exact List.mem_singleton_self _
    · cases hfound.symm.trans hm
  | some m =>
    obtain ⟨w', hrun, hw', hhooks', hdone⟩ := hadded.onImport hmade m
    refine ⟨w', by rw [addHook_apply, hfound]; exact hrun, hw', hhooks.trans (hhooks'.mono ?_), ?_,
      ?_⟩
    · exact fun c hc => ⟨n, List.mem_singleton_self n, m, hfound, hc⟩
    · intro hnone
      rw [hhooks'.imported] at hnone
      cases hfound.symm.trans hnone
    · intro m' hm' c hc
      rw [hhooks'.imported] at hm'
      cases hfound.symm.trans hm'
      exact hdone c (reaches_of_unwoven_eq hhooks'.unwoven.symm hc)

/-- One turn of an installation. -/
theorem InOrder.serve (h : w.InOrder made) (hmade : ∀ n s, ((made n).test s).FailsOrdinarily)
    {n : String} (hn : n ∈ (w.deployment 0).hooked) :
    ∃ w', hook 0 n w = (.returned (), w') ∧ w'.InOrder made ∧ Hooks (w.ReachedBy [n]) w w' ∧
      w'.IsServed n := by
  obtain ⟨v, hrun, hv, hhooks, hserved⟩ := h.addHook hmade hn
  obtain ⟨w', hreport, hw', hhooks'⟩ := hv.report (hookRecord_isPlain n) (w.ReachedBy [n])
  exact ⟨w', (bind_of_returned hrun).trans hreport, hw', hhooks.trans hhooks',
    hhooks'.isServed hserved⟩

/-- The hinted modules that have not been asked about. -/
def unasked (w : World) : NameSet :=
  (w.deployment 0).agent.moduleHints.filter fun n => !(w.deployment 0).hooked.contains n

/-- What an installation does: it asks about new modules, and serves them. -/
structure Installs (new : NameSet) (w w' : World) : Prop extends Weaves (w.ReachedBy new) w w' where
  importable : w'.importable = w.importable
  imported : w'.imported = w.imported
  hooked : (w'.deployment 0).hooked = (w.deployment 0).hooked.union new
  waiting : ∀ n, 0 ∈ w.waitingFor n → 0 ∈ w'.waitingFor n
  served : ∀ n ∈ new, w'.IsServed n

theorem InOrder.installHooks (h : w.InOrder made)
    (hmade : ∀ n s, ((made n).test s).FailsOrdinarily) :
    ∃ w', World.installHooks 0 w = (.returned w.unasked, w') ∧ w'.InOrder made ∧
      Installs w.unasked w w' := by
  let new := w.unasked
  let asked := w.modifyDeployment 0 fun d => { d with hooked := d.hooked.union new }
  have hdeployment : asked.deployment 0 = _ := h.deployment_modify _
  have hasked : asked.InOrder made := h.modifyDeployment rfl rfl h.descriptors
    fun _ hn => NameSet.mem_union.mpr (.inl hn)
  have hweaves : Weaves (w.ReachedBy new) w asked := h.modify_weaves rfl _
  have hserve : ∀ n ∈ new, ∀ v, v.InOrder made ∧ Hooks (w.ReachedBy new) asked v →
      ∃ v', hook 0 n v = (.returned (), v') ∧ (v'.InOrder made ∧ Hooks (w.ReachedBy new) asked v') ∧
        Hooks (w.ReachedBy new) v v' ∧ v'.IsServed n := by
    rintro n hn v ⟨hv, hsofar⟩
    have hmem : n ∈ (v.deployment 0).hooked := by
      rw [hsofar.hooked, hdeployment]
      exact NameSet.mem_union.mpr (.inr hn)
    obtain ⟨v', hrun, hv', hhooks, hserved⟩ := hv.serve hmade hmem
    have hturn : Hooks (w.ReachedBy new) v v' := by
      refine hhooks.mono ?_
      rintro c ⟨n', hn', m, hm, hc⟩
      rw [List.mem_singleton.mp hn', hsofar.imported] at hm
      exact ⟨n, hn, m, hm, reaches_of_unwoven_eq hsofar.unwoven.symm hc⟩
    exact ⟨v', hrun, ⟨hv', hsofar.trans hturn⟩, hturn, hserved⟩
  obtain ⟨w', hrun, ⟨hw', hhooks⟩, -, hserved⟩ := forEach_returns (P := fun n v => v.IsServed n)
    (Hooks.refl (w.ReachedBy new)) (fun _ _ _ => Hooks.trans) (fun _ _ _ hv => hv.isServed) new
    hserve asked ⟨hasked, .refl _ _⟩
  refine ⟨w', (installHooks_of_enabled h.enabled).trans (bind_of_returned hrun), hw',
    hweaves.trans hhooks.toWeaves,
    hhooks.importable, hhooks.imported, ?_, hhooks.waiting, hserved⟩
  rw [hhooks.hooked, hdeployment]

/-! ## Imports -/

/-- The hooks of modules that have been asked about wait until the import. -/
def Awaits (w : World) : Prop :=
  ∀ n ∈ (w.deployment 0).hooked, w.imported.get? n = none → 0 ∈ w.waitingFor n

/-- A module that has been asked about has been imported in between. -/
def Fires (w w' : World) (m : HostModule) : Prop :=
  ∃ n ∈ (w.deployment 0).hooked, w.imported.get? n = none ∧ w'.imported.get? n = some m

/-- What imports do: the classes are done that the modules reach whose hooks were fired, and no
other classes have changed. -/
structure Imports (w w' : World) : Prop
    extends Weaves (fun c => ∃ m, w.Fires w' m ∧ m.Reaches w.host c) w w' where
  importable : w'.importable = w.importable
  hooked : (w'.deployment 0).hooked = (w.deployment 0).hooked
  imported : ∀ n m, w.imported.get? n = some m → w'.imported.get? n = some m
  done : ∀ m, w.Fires w' m → ∀ c, m.Reaches w.host c → w'.IsDone c

namespace Imports

variable {w w' w'' : World}

theorem refl (w : World) : Imports w w where
  toWeaves := .refl _ w
  importable := rfl
  hooked := rfl
  imported _ _ := id
  done := by
    rintro m ⟨n, -, hnone, hsome⟩
    cases hnone.symm.trans hsome

theorem trans (h : Imports w w') (h' : Imports w' w'') : Imports w w'' := by
  have hfirst : ∀ m, w.Fires w' m → w.Fires w'' m := by
    rintro m ⟨n, hn, hnone, hsome⟩
    exact ⟨n, hn, hnone, h'.imported n m hsome⟩
  have hsecond : ∀ m, w'.Fires w'' m → w.Fires w'' m := by
    rintro m ⟨n, hn, hnone, hsome⟩
    refine ⟨n, h.hooked ▸ hn, ?_, hsome⟩
    cases hbefore : w.imported.get? n with
    | none => rfl
    | some m' => cases hnone.symm.trans (h.imported n m' hbefore)
  have heither : ∀ m, w.Fires w'' m → w.Fires w' m ∨ w'.Fires w'' m := by
    rintro m ⟨n, hn, hnone, hsome⟩
    cases hbetween : w'.imported.get? n with
    | none => exact .inr ⟨n, h.hooked.symm ▸ hn, hbetween, hsome⟩
    | some m' =>
      cases hsome.symm.trans (h'.imported n m' hbetween)
      exact .inl ⟨n, hn, hnone, hbetween⟩
  refine ⟨Weaves.trans (h.toWeaves.mono ?_) (h'.toWeaves.mono ?_), h'.importable.trans h.importable,
    h'.hooked.trans h.hooked, fun n m hm => h'.imported n m (h.imported n m hm), ?_⟩
  · rintro c ⟨m, hm, hc⟩
    exact ⟨m, hfirst m hm, hc⟩
  · rintro c ⟨m, hm, hc⟩
    exact ⟨m, hsecond m hm, reaches_of_unwoven_eq h.unwoven.symm hc⟩
  · intro m hm c hc
    rcases heither m hm with hm | hm
    · exact h'.isDone (h.done m hm c hc)
    · exact h'.done m hm c (reaches_of_unwoven_eq h.unwoven hc)

end Imports

theorem mem_waitingFor_release {n name : String} (hne : name ≠ n) (h : 0 ∈ w.waitingFor n) :
    0 ∈ (w.releaseHooks name).waitingFor n := by
  rw [mem_waitingFor] at h ⊢
  refine List.mem_map.mpr ⟨_, h, if_neg (Ne.symm hne)⟩

/-- The hooks that wait for a module return when it is imported. -/
theorem InOrder.fire (h : w.InOrder made) (hmade : ∀ n s, ((made n).test s).FailsOrdinarily)
    (name : String) (m : HostModule) :
    ∃ w', forEach (w.waitingFor name) (fun i => World.onImport i m)
        (({ w with imported := w.imported.put name m } : World).releaseHooks name) =
          (.returned (), w') ∧ w'.InOrder made ∧
      Hooks (fun c => name ∈ (w.deployment 0).hooked ∧ m.Reaches w.host c)
        (({ w with imported := w.imported.put name m } : World).releaseHooks name) w' ∧
      (0 ∈ w.waitingFor name → ∀ c, m.Reaches w.host c → w'.IsDone c) := by
  let begun := ({ w with imported := w.imported.put name m } : World).releaseHooks name
  let into := fun c => name ∈ (w.deployment 0).hooked ∧ m.Reaches w.host c
  have hbegun : begun.InOrder made := by
    refine ⟨h.single, h.enabled, h.descriptors, h.complete, h.safe, fun x hx => ?_⟩
    obtain ⟨y, hy, rfl⟩ := List.mem_map.mp hx
    split <;> exact h.hooks y hy
  have hturn : ∀ i ∈ w.waitingFor name, ∀ v, v.InOrder made ∧ Hooks into begun v →
      ∃ v', World.onImport i m v = (.returned (), v') ∧ (v'.InOrder made ∧ Hooks into begun v') ∧
        Hooks into v v' ∧ ∀ c, m.Reaches w.host c → v'.IsDone c := by
    rintro i hi v ⟨hv, hsofar⟩
    obtain ⟨x, hx, rfl⟩ := List.mem_map.mp hi
    obtain ⟨hx, hname⟩ := List.mem_filter.mp hx
    obtain ⟨hnumber, hasked⟩ := h.hooks x hx
    have hmodule : x.module = name := by
      rw [Bool.and_eq_true, beq_iff_eq] at hname
      exact hname.1
    rw [hnumber]
    obtain ⟨v', hrun, hv', hhooks, hdone⟩ := hv.onImport hmade m
    have hhooks' : Hooks into v v' := hhooks.mono fun c hc =>
      ⟨hmodule ▸ hasked, reaches_of_unwoven_eq hsofar.unwoven.symm hc⟩
    exact ⟨v', hrun, ⟨hv', hsofar.trans hhooks'⟩, hhooks',
      fun c hc => hdone c (reaches_of_unwoven_eq hsofar.unwoven hc)⟩
  obtain ⟨w', hrun, ⟨hw', hhooks⟩, -, hdone⟩ := forEach_returns
    (P := fun _ v => ∀ c, m.Reaches w.host c → v.IsDone c) (Hooks.refl into)
    (fun _ _ _ => Hooks.trans) (fun _ _ _ hv hdone c hc => hv.isDone (hdone c hc))
    (w.waitingFor name) hturn begun ⟨hbegun, .refl _ _⟩
  exact ⟨w', hrun, hw', hhooks, fun hwaits => hdone 0 hwaits⟩

/-- One more module has been imported: the hooks fired are those that wait for it. -/
theorem fires_iff {name : String} {m m' : HostModule} {w' : World}
    (hnew : w.imported.get? name = none) (hput : w'.imported = w.imported.put name m) :
    w.Fires w' m' ↔ name ∈ (w.deployment 0).hooked ∧ m' = m := by
  constructor
  · rintro ⟨n, hn, hnone, hsome⟩
    rw [hput, Table.get?_put] at hsome
    split at hsome
    · rename_i heq
      cases hsome
      exact ⟨heq ▸ hn, rfl⟩
    · cases hnone.symm.trans hsome
  · rintro ⟨hn, rfl⟩
    exact ⟨name, hn, hnew, by rw [hput, Table.get?_put, if_pos rfl]⟩

/-- The first import of a module fires its hook. -/
theorem InOrder.load_new (h : w.InOrder made) (ha : w.Awaits)
    (hmade : ∀ n s, ((made n).test s).FailsOrdinarily) {name : String} {m : HostModule}
    (hnew : w.imported.get? name = none) (hm : w.importable.get? name = some m) :
    ∃ w', World.load name w = (.returned (), w') ∧ w'.InOrder made ∧ w'.Awaits ∧ Imports w w' ∧
      w'.imported.get? name = some m := by
  obtain ⟨w', hrun, hw', hhooks, hdone⟩ := h.fire hmade name m
  have hload : World.load name w = (.returned (), w') := by
    rw [World.load, bind_of_returned (read_apply w), Table.has, hnew]
    simp only [hm]
    exact bind_of_returned (attempt_of_returned hrun)
  have hput : w'.imported = w.imported.put name m := hhooks.imported
  have hget : ∀ n, w'.imported.get? n = if name = n then some m else w.imported.get? n := by
    intro n
    rw [hput, Table.get?_put]
  refine ⟨w', hload, hw', fun n hn hnone => ?_, ⟨?_, hhooks.importable, hhooks.hooked, ?_, ?_⟩, ?_⟩
  · rw [hget] at hnone
    split at hnone
    · cases hnone
    · rename_i hne
      exact hhooks.waiting n (mem_waitingFor_release hne (ha n (hhooks.hooked ▸ hn) hnone))
  · refine ⟨hhooks.descriptors, hhooks.unwoven, hhooks.kept, fun c hc => hhooks.others c ?_⟩
    rintro ⟨hn, hreach⟩
    exact hc ⟨m, (fires_iff hnew hput).mpr ⟨hn, rfl⟩, hreach⟩
  · intro n m' hm'
    have hne : name ≠ n := by
      rintro rfl
      cases hnew.symm.trans hm'
    rw [hget, if_neg hne, hm']
  · intro m' hm' c hc
    obtain ⟨hn, rfl⟩ := (fires_iff hnew hput).mp hm'
    exact hdone (ha name hn hnew) c hc
  · rw [hget, if_pos rfl]

/-- To import one module fires its hook, unless there is no such module. -/
theorem InOrder.load (h : w.InOrder made) (ha : w.Awaits)
    (hmade : ∀ n s, ((made n).test s).FailsOrdinarily) (name : String) :
    (w.imported.get? name = none ∧ w.importable.get? name = none ∧
      World.load name w = (.raised (.noSuchModule name), w)) ∨
    ∃ w', World.load name w = (.returned (), w') ∧ w'.InOrder made ∧ w'.Awaits ∧ Imports w w' ∧
      ∃ m, w'.imported.get? name = some m := by
  cases himported : w.imported.get? name with
  | some m =>
    refine .inr ⟨w, ?_, h, ha, .refl w, m, himported⟩
    rw [World.load, bind_of_returned (read_apply w), Table.has, himported]
    rfl
  | none =>
    cases himportable : w.importable.get? name with
    | none =>
      refine .inl ⟨rfl, rfl, ?_⟩
      rw [World.load, bind_of_returned (read_apply w), Table.has, himported]
      simp only [himportable]
      rfl
    | some m =>
      obtain ⟨w', hload, hw', hwaits, himports, hm⟩ := h.load_new ha hmade himported himportable
      exact .inr ⟨w', hload, hw', hwaits, himports, m, hm⟩

/-- However an import ends, it leaves the world in order. -/
theorem InOrder.importModule (h : w.InOrder made) (ha : w.Awaits)
    (hmade : ∀ n s, ((made n).test s).FailsOrdinarily) (name : String) :
    (World.importModule name w).2.InOrder made ∧ (World.importModule name w).2.Awaits ∧
      Imports w (World.importModule name w).2 := by
  let keeps : Contract World :=
    { allows := fun _ w w' => w.InOrder made ∧ w.Awaits →
        (w'.InOrder made ∧ w'.Awaits) ∧ Imports w w'
      refl := fun _ w hw => ⟨hw, .refl w⟩
      trans := fun h h' hw => ⟨(h' (h hw).1).1, (h hw).2.trans (h' (h hw).1).2⟩ }
  have hload : ∀ n, keeps.Meets (World.load n) := by
    rintro n v ⟨hv, hwaits⟩
    rcases hv.load hwaits hmade n with ⟨-, -, hrun⟩ | ⟨v', hrun, hv', hwaits', himports, -⟩
    · rw [hrun]
      exact ⟨⟨hv, hwaits⟩, .refl v⟩
    · rw [hrun]
      exact ⟨⟨hv', hwaits'⟩, himports⟩
  have hmeets : keeps.Meets (World.importModule name) := by
    unfold World.importModule
    split
    · exact meets_raise _
    · split
      · exact meets_raise _
      · exact meets_forEach _ fun n _ => hload n
  obtain ⟨⟨hw', hwaits'⟩, himports⟩ := hmeets w ⟨h, ha⟩
  exact ⟨hw', hwaits', himports⟩

theorem importModule_of_absolute {name : String}
    (h : name.isEmpty = false ∧ name.startsWith "." = false) :
    World.importModule name = forEach (HostModule.ancestry name) World.load := by
  rw [World.importModule, h.1, h.2]
  rfl

/-- An import returns if the module and the packages it lies in exist. -/
theorem InOrder.importModule_returns (h : w.InOrder made) (ha : w.Awaits)
    (hmade : ∀ n s, ((made n).test s).FailsOrdinarily) {name : String}
    (habsolute : name.isEmpty = false ∧ name.startsWith "." = false)
    (hexists : ∀ n ∈ HostModule.ancestry name,
      w.importable.get? n ≠ none ∨ w.imported.get? n ≠ none) :
    (World.importModule name w).1 = .returned () ∧
      ∀ n ∈ HostModule.ancestry name, (World.importModule name w).2.imported.get? n ≠ none := by
  have hkept : ∀ (n : String) (v v' : World), Imports v v' → v.imported.get? n ≠ none →
      v'.imported.get? n ≠ none := by
    intro n v v' himports hsome hnone
    obtain ⟨m, hm⟩ := Option.ne_none_iff_exists'.mp hsome
    cases hnone.symm.trans (himports.imported n m hm)
  have hturn : ∀ n ∈ HostModule.ancestry name, ∀ v,
      (v.InOrder made ∧ v.Awaits ∧ ∀ n ∈ HostModule.ancestry name,
        v.importable.get? n ≠ none ∨ v.imported.get? n ≠ none) →
      ∃ v', World.load n v = (.returned (), v') ∧
        (v'.InOrder made ∧ v'.Awaits ∧ ∀ n ∈ HostModule.ancestry name,
          v'.importable.get? n ≠ none ∨ v'.imported.get? n ≠ none) ∧
        Imports v v' ∧ v'.imported.get? n ≠ none := by
    rintro n hn v ⟨hv, hwaits, hthere⟩
    rcases hv.load hwaits hmade n with
      ⟨himported, himportable, -⟩ | ⟨v', hrun, hv', hwaits', himports, m, hm⟩
    · exact absurd (hthere n hn) (by simp [himported, himportable])
    · refine ⟨v', hrun, ⟨hv', hwaits', fun n' hn' => ?_⟩, himports, by simp [hm]⟩
      rw [himports.importable]
      exact (hthere n' hn').imp id (hkept n' v v' himports)
  obtain ⟨w', hrun, -, -, himported⟩ := forEach_returns (R := Imports)
    (P := fun n v => v.imported.get? n ≠ none) Imports.refl (fun _ _ _ => Imports.trans) hkept
    (HostModule.ancestry name) hturn w ⟨h, ha, hexists⟩
  rw [importModule_of_absolute habsolute, hrun]
  exact ⟨rfl, himported⟩

end World

end AspectAgent
