import AspectAgent.Proofs.MemoryObservers

/-!
# Registering observers in turn

The observers of memory are registered one after the other, and nothing is taken back when one of
them is refused. So a registration that raises leaves those observers registered that came before
the one at which it raised: their names are in use, they are active, and a collection samples them.
The registry is as it was only if the first observer is refused.
-/

namespace AspectAgent

open Act

namespace Bench

open RuntimeMemory

variable {C R α β : Type} {b : Bench C R}

/-! ## Looking at the sources -/

theorem consults_ofExcept (e : Except Failure α) : b.Consults (Act.ofExcept e) e :=
  fun b' _ => ofExcept_apply e b'

theorem consults_bind {x : Act (Bench C R) α} {k : α → Act (Bench C R) β}
    (hx : ∃ e, b.Consults x e) (hk : ∀ a, ∃ e, b.Consults (k a) e) :
    ∃ e, b.Consults (x >>= k) e := by
  obtain ⟨e, hx⟩ := hx
  cases e with
  | ok a =>
    obtain ⟨e, hk⟩ := hk a
    exact ⟨e, fun b' hb' => (bind_of_returned (hx b' hb')).trans (hk b' hb')⟩
  | error f => exact ⟨.error f, fun b' hb' => by rw [bind_apply, hx b' hb']; rfl⟩

theorem consults_source {k : Bench C R → Act (Bench C R) α} {l : Source C → Act (Bench C R) α}
    (n : Nat) (hl : ∀ b', k b' = l (b'.source n)) (hk : ∃ e, b.Consults (l (b.source n)) e) :
    ∃ e, b.Consults (read >>= k) e := by
  obtain ⟨e, hk⟩ := hk
  refine ⟨e, fun b' hb' => ?_⟩
  have hsource : b'.source n = b.source n := by rw [source, hb', source]
  rw [bind_of_returned (read_apply b'), hl, hsource]
  exact hk b' hb'

theorem consults_collect {k : α → Act (Bench C R) β} (xs : List α)
    (hk : ∀ x ∈ xs, ∃ e, b.Consults (k x) e) : ∃ e, b.Consults (Act.collect xs k) e := by
  induction xs with
  | nil => exact ⟨.ok [], fun _ _ => rfl⟩
  | cons x rest ih =>
    have hrest := ih fun y hy => hk y (List.mem_cons_of_mem x hy)
    exact consults_bind (hk x List.mem_cons_self) fun y =>
      consults_bind hrest fun ys => ⟨.ok (y :: ys), fun _ _ => rfl⟩

theorem consults_poolLabels (n : Nat) : ∃ e, b.Consults (poolLabels n) e :=
  consults_source (l := fun s => do
      let name ← Act.ofExcept (Failure.ifNone (.noMember s.value "name") (s.value? "name"))
      let type ← Act.ofExcept (Failure.ifNone (.noMember s.value "type") (s.value? "type"))
      return labels name type) n (fun _ => rfl)
    (consults_bind ⟨_, consults_ofExcept _⟩ fun _ =>
      consults_bind ⟨_, consults_ofExcept _⟩ fun _ => ⟨.ok _, fun _ _ => rfl⟩)

/-- No source is read when the callback of an observer is made. -/
theorem consults_makeCallback (pools : List Nat) (memory : Nat) (s : Scope) (f : MemoryField)
    (name : String) : ∃ e, b.Consults (makeCallback pools memory s f name) e := by
  cases s with
  | pools =>
    have hpairs := consults_collect (b := b) pools fun n _ =>
      consults_bind (consults_poolLabels n) fun labels =>
        consults_bind ⟨_, consults_ofExcept (AttributeSet.of? labels)⟩ fun set =>
          ⟨.ok (n, set), fun _ _ => rfl⟩
    have hcache : ∃ e, b.Consults (AttributeCache.build poolLabels pools) e :=
      consults_bind hpairs fun pairs => ⟨.ok ⟨pairs⟩, fun _ _ => rfl⟩
    exact consults_bind hcache fun _ => ⟨.ok _, fun _ _ => rfl⟩
  | totals =>
    exact consults_source (l := fun s => do
        let _ ← Act.ofExcept (s.part .heap)
        let _ ← Act.ofExcept (s.part .nonHeap)
        return .dual (totalsOf memory) (.field f) typeKey name) memory (fun _ => rfl)
      (consults_bind ⟨_, consults_ofExcept _⟩ fun _ =>
        consults_bind ⟨_, consults_ofExcept _⟩ fun _ => ⟨.ok _, fun _ _ => rfl⟩)

/-! ## The observers of memory -/

theorem registerObservers_inTurn (handle stem : String) (pools : List Nat) (memory : Nat)
    {registry : Nat} (hlt : registry < b.metering.registries.length) :
    let run := registerObservers handle (some registry) stem pools memory b
    ∃ (callback : Scope × Measure → Except Failure (Callback C)) (handles : Table Nat),
      (∀ x, b.Consults (makeCallback pools memory x.1 x.2.field (x.1.instrument stem x.2).name)
        (callback x)) ∧
      (run.1.isRaised = true → handles = b.instruments) ∧
      ∃ made channel, run.2 = { b with
          metering := b.metering.addedAll registry made
          channel := channel
          instruments := handles } ∧
        InTurn b registry (fun x => x.1.instrument stem x.2) callback observers
          (run.1, { run.2 with instruments := b.instruments }) made channel := by
  choose callback hmake using fun x : Scope × Measure => consults_makeCallback (b := b) pools memory
    x.1 x.2.field (x.1.instrument stem x.2).name
  obtain ⟨made, channel, h⟩ : ∃ made channel, InTurn b registry (fun x => x.1.instrument stem x.2)
      callback observers (Act.collect observers (fun x => do
        let k ← makeCallback pools memory x.1 x.2.field (x.1.instrument stem x.2).name
        Metering.registering registry (x.1.instrument stem x.2) (some k)) b) made channel :=
    inTurn_collect (fun x _ => hmake x) (nodup_names stem) hlt
  rw [← registerObservers_eq registry stem (makeCallback pools memory)] at h
  rcases hrun : RuntimeMemory.registerObservers registry stem (makeCallback pools memory .pools)
    (makeCallback pools memory .totals) b with ⟨o, b₁⟩
  rw [hrun] at h
  obtain rfl := h.state
  cases o with
  | returned numbers =>
    obtain ⟨handles, hhandles⟩ := forEach_remember handle numbers
      { b with metering := b.metering.addedAll registry made, channel := channel }
    have hall : registerObservers handle (some registry) stem pools memory b = (.returned numbers,
        { b with
          metering := b.metering.addedAll registry made
          channel := channel
          instruments := handles }) :=
      (bind_of_returned hrun).trans (bind_of_returned hhandles)
    intro run
    rw [show run = _ from hall]
    exact ⟨callback, handles, hmake, nofun, made, channel, rfl, h⟩
  | raised f =>
    have hall : registerObservers handle (some registry) stem pools memory b = (.raised f,
        { b with metering := b.metering.addedAll registry made, channel := channel }) := by
      show (RuntimeMemory.registerObservers registry stem (makeCallback pools memory .pools)
        (makeCallback pools memory .totals) >>= _) b = _
      rw [bind_apply, hrun]
    intro run
    rw [show run = _ from hall]
    exact ⟨callback, b.instruments, hmake, fun _ => rfl, made, channel, rfl, h⟩
  | unfinished => exact absurd rfl h.ending.ne_unfinished

/-- **Registration of the observers of memory.** The observers are registered with a registry in
their order, each with the callback that is made for it from the sources as they are. Either all
eight are registered and their numbers are returned; or the registration raises: at the observer
whose callback cannot be made, whose name is taken or which the meter refuses, or behind one whose
own record cannot be written. Nothing is taken back then: what has been made before stays
registered, next to what was, it is active, and it is what a later collection finds besides what it
would have found. So the meter and its registries are as they were just if nothing has been made. -/
theorem observer_registration {C R : Type} {b : Bench C R} {registry : Nat}
    (hlt : registry < b.metering.registries.length) (handle stem : String) (pools : List Nat)
    (memory : Nat) :
    let run := registerObservers handle (some registry) stem pools memory b
    ∃ (callback : Scope × Measure → Except Failure (Callback C))
      (made : List (Instrument × Callback C)) (channel : LogChannel) (handles : Table Nat),
      (∀ x, b.Consults (makeCallback pools memory x.1 x.2.field (x.1.instrument stem x.2).name)
        (callback x)) ∧
      List.Forall₂ (fun x y => y.1 = x.1.instrument stem x.2 ∧ callback x = .ok y.2)
        (observers.take made.length) made ∧
      Ending b registry (fun x => x.1.instrument stem x.2) callback observers made.length run.1 ∧
      run.2 = { b with
        metering := b.metering.addedAll registry made
        channel := channel
        instruments := handles } ∧
      (run.1.isRaised = true → handles = b.instruments) ∧
      LogChannel.sameSettings.allows true b.channel channel ∧
      (∀ y ∈ made, b.metering.find? registry y.1.name = none) ∧
      (∀ g name, (run.2.metering.find? g name).isSome ↔
        (b.metering.find? g name).isSome ∨ registry = g ∧ ∃ y ∈ made, y.1.name = name) ∧
      run.2.metering.activeOnes =
        b.metering.activeOnes ++ made.map (fun y => ⟨y.1, y.2, some registry, true⟩) ∧
      (run.2.metering = b.metering ↔ made = []) ∧
      ∀ (commands : C → Act (Bench C R) R) (time : Value),
        (∀ c, (leavesMetering (Bench C R)).Meets (commands c)) → b.metering.InStep →
        LogsSafely b →
          Collection.collect (interpret commands) time run.2 =
            Collection.sampleAll (interpret commands) time
              (b.metering.activeOnes ++ made.map fun y => ⟨y.1, y.2, some registry, true⟩)
              run.2 := by
  intro run
  obtain ⟨callback, handles, hmake, hhandles, made, channel, hrun, h⟩ :=
    registerObservers_inTurn (b := b) handle stem pools memory hlt
  have hmetering : run.2.metering = b.metering.addedAll registry made := by
    rw [show run.2 = _ from hrun]
  have hactive := Metering.activeOnes_addedAll b.metering registry made
  refine ⟨callback, made, channel, handles, hmake, h.elements, h.ending, hrun, hhandles, h.settings,
    h.free, fun g name => ?_, ?_, ?_, fun commands time hquiet hstep hsafe => ?_⟩
  · rw [hmetering, Metering.isSome_find?_addedAll hlt]
  · rw [hmetering, hactive]
  · rw [hmetering, Metering.addedAll_eq_self_iff]
  · have hnodup : (made.map fun y => y.1.name).Nodup := by
      have hnames : (made.map fun y => y.1.name) =
          (observers.take made.length).map fun x => (x.1.instrument stem x.2).name := by
        have hmap := congrArg (List.map Instrument.name) h.map_fst
        rwa [List.map_map, List.map_map] at hmap
      rw [hnames]
      exact (nodup_names stem).sublist ((List.take_sublist _ _).map _)
    have hstep' : run.2.metering.InStep := hmetering ▸ hstep.addedAll hlt h.free hnodup
    have hsafe' : LogsSafely run.2 := by
      obtain ⟨archives, passedOn, hchannel⟩ := h.settings
      unfold LogsSafely
      rw [show run.2 = _ from hrun]
      show channel.NeverFails
      rw [hchannel]
      exact hsafe
    rw [← hactive, ← hmetering]
    exact Collection.collect_eq_sampleAll hstep'
      (fun r _ => quiet_interpret hquiet r.callback) rfl hsafe'

/-- A registry in which the name of the third observer is taken, and a memory whose parts tell
nothing. -/
def occupied : Bench Unit Unit where
  sources := [.subsystem (.value .null) (.value .null)]
  metering := ({} : Metering (Callback Unit)).added 0
    ⟨"process.runtime.memory.pool.committed", unit, ""⟩ gauge

theorem observer_registration_of_occupied :
    0 < occupied.metering.registries.length ∧
      ∃ (callback : Scope × Measure → Except Failure (Callback Unit))
        (made : List (Instrument × Callback Unit)),
        made.length = 2 ∧
        List.Forall₂ (fun x y => y.1 = x.1.instrument defaultStem x.2 ∧ callback x = .ok y.2)
          (observers.take 2) made ∧
        Ending occupied 0 (fun x => x.1.instrument defaultStem x.2) callback observers 2
          (.raised (.duplicateInstrument "process.runtime.memory.pool.committed")) := by
  have hlt : 0 < occupied.metering.registries.length := by decide
  let run := registerObservers "" (some 0) defaultStem [] 0 occupied
  have hraised : run.1 =
    .raised (.duplicateInstrument "process.runtime.memory.pool.committed") := rfl
  have hthree : run.2.metering.activeOnes.length = 3 := rfl
  obtain ⟨callback, made, _, _, -, helements, hending, -, -, -, -, -, hactive, -⟩ :=
    observer_registration hlt "" defaultStem [] 0
  have hlength : made.length = 2 := by
    rw [show run.2.metering.activeOnes = _ from hactive, List.length_append, List.length_map]
      at hthree
    exact Nat.add_left_cancel (n := 1) hthree
  rw [hlength] at helements hending
  exact ⟨hlt, callback, made, hlength, helements, hraised ▸ hending⟩

/-- A registration that raises can leave observers behind. -/
theorem observers_left_of_occupied :
    let run := registerObservers "" (some 0) defaultStem [] 0 occupied
    run.1 = .raised (.duplicateInstrument "process.runtime.memory.pool.committed") ∧
      occupied.metering.find? 0 "process.runtime.memory.pool.usage" = none ∧
      run.2.metering.find? 0 "process.runtime.memory.pool.usage" = some 1 ∧
      (occupied.metering.activeOnes.map fun r => r.instrument.name) =
        ["process.runtime.memory.pool.committed"] ∧
      (run.2.metering.activeOnes.map fun r => r.instrument.name) =
        ["process.runtime.memory.pool.committed", "process.runtime.memory.pool.usage",
          "process.runtime.memory.pool.init"] := by
  exact ⟨rfl, rfl, rfl, rfl, rfl⟩

end Bench

end AspectAgent
