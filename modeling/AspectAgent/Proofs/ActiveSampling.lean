import AspectAgent.Metrics.Source
import AspectAgent.Proofs.EntitySurvey
import AspectAgent.Proofs.NamesInUse
import AspectAgent.Proofs.SamplingIsolation

/-!
# Collections of active instruments

As long as callbacks leave the meter and the registries alone and no handler raises, a collection
samples the active instruments in the order of their registration, and them only: at the places of
closed instruments it finds nothing, and it does nothing there.
-/

namespace AspectAgent

open Act Contract Sampling

namespace Act

variable {σ α β : Type}

/-- Sequences agree on a state if their first parts do, and their second parts on what the first
return. -/
theorem bind_congr_at {x y : Act σ α} {k l : α → Act σ β} {s : σ} (h : x s = y s)
    (hk : ∀ a s', y s = (.returned a, s') → k a s' = l a s') : (x >>= k) s = (y >>= l) s := by
  rw [bind_apply, bind_apply, h]
  rcases hy : y s with ⟨a | f | _, s'⟩
  · exact hk a s' hy
  · rfl
  · rfl

theorem flatten_collect_cons (x : α) (xs : List α) (k : α → Act σ (List β)) :
    (Act.collect (x :: xs) k >>= fun bs => pure bs.flatten) =
      k x >>= fun b => (Act.collect xs k >>= fun bs => pure bs.flatten) >>= fun rest =>
        pure (b ++ rest) := by
  rw [collect_cons]
  simp only [bind_assoc, pure_bind, List.flatten_cons]

end Act

namespace Recorder

variable {σ : Type} {x : Act (Recorder σ) Unit} {ms : List Measurement} {st st' : σ} {f : Failure}

theorem runOrdinary_of_returned (h : x ([], st) = (.returned (), ms, st')) :
    runOrdinary x st = (.returned (none, ms), st') := by
  have hrun : run x st = (.returned (none, ms), st') := by rw [run, h]
  rw [runOrdinary, bind_of_returned hrun]
  rfl

theorem runOrdinary_of_ordinary (h : x ([], st) = (.raised f, ms, st'))
    (hf : f.isOrdinary = true) : runOrdinary x st = (.returned (some f, ms), st') := by
  have hrun : run x st = (.returned (some f, ms), st') := by rw [run, h]
  rw [runOrdinary, bind_of_returned hrun]
  simp [hf]

theorem runOrdinary_of_raised (h : x ([], st) = (.raised f, ms, st'))
    (hf : f.isOrdinary = false) : runOrdinary x st = (.raised f, st') := by
  have hrun : run x st = (.returned (some f, ms), st') := by rw [run, h]
  rw [runOrdinary, bind_of_returned hrun]
  simp [hf]

theorem runOrdinary_of_unfinished (h : x ([], st) = (.unfinished, ms, st')) :
    runOrdinary x st = (.unfinished, st') := by
  have hrun : run x st = (.unfinished, st') := by rw [run, h]
  rw [runOrdinary, bind_apply, hrun]

end Recorder

/-- The meter with its registries, and diagnostics, are separate parts of the state. -/
class LawfulMetering (σ : Type) {K : outParam Type} [HasMetering σ K] [HasChannel σ] : Prop where
  metering_setMetering : ∀ m (s : σ), HasMetering.metering (HasMetering.setMetering m s) = m
  metering_setChannel : ∀ c (s : σ),
    HasMetering.metering (HasChannel.setChannel c s) = HasMetering.metering s
  channel_setMetering : ∀ m (s : σ),
    HasChannel.channel (HasMetering.setMetering m s) = HasChannel.channel s
  channel_setChannel : ∀ c (s : σ), HasChannel.channel (HasChannel.setChannel c s) = c

instance {C R : Type} : LawfulMetering (Bench C R) where
  metering_setMetering _ _ := rfl
  metering_setChannel _ _ := rfl
  channel_setMetering _ _ := rfl
  channel_setChannel _ _ := rfl

variable {σ K α : Type} [HasMetering σ K] [HasChannel σ]

instance [LawfulMetering σ] : LawfulMetering (Recorder σ) where
  metering_setMetering m s := LawfulMetering.metering_setMetering m s.2
  metering_setChannel c s := LawfulMetering.metering_setChannel c s.2
  channel_setMetering m s := LawfulMetering.channel_setMetering m s.2
  channel_setChannel c s := LawfulMetering.channel_setChannel c s.2

/-- The meter and the registries are left as they are, and no handler raises unless one did
before. -/
def leavesMetering (σ : Type) {K : outParam Type} [HasMetering σ K] [HasChannel σ] :
    Contract σ where
  allows _ s s' := HasMetering.metering s' = HasMetering.metering s ∧ (LogsSafely s → LogsSafely s')
  refl _ _ := ⟨rfl, id⟩
  trans h h' := ⟨h'.1.trans h.1, fun hs => h'.2 (h.2 hs)⟩

theorem report_leavesMetering [LawfulMetering σ] (r : LogRecord) :
    (leavesMetering σ).Meets (report r) := by
  intro s
  refine ⟨LawfulMetering.metering_setChannel _ s, fun hs => ?_⟩
  unfold LogsSafely
  rw [report, within, LawfulMetering.channel_setChannel]
  exact LogChannel.NeverFails.logged hs r

/-! ## Recording -/

theorem meets_beside {x : Act σ α} (hx : (leavesMetering σ).Meets x) :
    (leavesMetering (Recorder σ)).Meets (Recorder.beside x) := fun s => hx s.2

theorem meets_asNumber (v : Value) (labels : Table Value) :
    (leavesMetering (Recorder σ)).Meets (Recorder.asNumber v labels) :=
  meets_bind (meets_ofExcept _) fun _ => meets_change fun _ => ⟨rfl, id⟩

theorem meets_run {x : Act (Recorder σ) Unit} (hx : (leavesMetering (Recorder σ)).Meets x) :
    (leavesMetering σ).Meets (Recorder.run x) := by
  intro s
  have h := hx ([], s)
  unfold MeetsAt Recorder.run at *
  rcases hs : x ([], s) with ⟨o, ms, s'⟩
  rw [hs] at h
  cases o <;> exact h

theorem meets_runOrdinary {x : Act (Recorder σ) Unit}
    (hx : (leavesMetering (Recorder σ)).Meets x) :
    (leavesMetering σ).Meets (Recorder.runOrdinary x) := by
  refine meets_bind (meets_run hx) fun r => ?_
  obtain ⟨ended, ms⟩ := r
  cases ended with
  | none => exact meets_pure _
  | some f =>
    dsimp only
    split
    · exact meets_pure _
    · exact meets_raise f

/-- What a callback does when it is sampled leaves the meter and the registries alone. -/
def Quiet (callbacks : Interpretation K σ) (k : K) : Prop :=
  (leavesMetering (Recorder σ)).Meets (callbacks k Recorder.asNumber)

/-- The samples of what the callback of an instrument records. An ordinary failure of the callback
is reported. -/
def RegisteredInstrument.sample (callbacks : Interpretation K σ) (time : Value)
    (r : RegisteredInstrument K) : Act σ (List MetricSample) := do
  let (ended, ms) ← Recorder.runOrdinary (callbacks r.callback Recorder.asNumber)
  if let some f := ended then report (Sampling.faultRecord r.instrument.name "None" f)
  return r.instrument.samples time ms

variable {callbacks : Interpretation K σ} {time : Value} {r : RegisteredInstrument K}
  {number : Nat} {st : σ}

theorem RegisteredInstrument.sample_leavesMetering [LawfulMetering σ]
    (h : Quiet callbacks r.callback) (time : Value) :
    (leavesMetering σ).Meets (r.sample callbacks time) := by
  refine meets_bind (meets_runOrdinary h) fun o => ?_
  obtain ⟨ended, ms⟩ := o
  cases ended with
  | none => exact meets_pure _
  | some f => exact meets_bind (report_leavesMetering _) fun _ => meets_pure _

namespace Metering

/-- The instrument of a number, if it is active. -/
def activeAt (m : Metering K) (n : Nat) : Option (RegisteredInstrument K) :=
  m.registered[n]?.filter RegisteredInstrument.active

theorem filterMap_activeAt (m : Metering K) :
    (List.range m.registered.length).filterMap m.activeAt = m.activeOnes := by
  have hnumbered : (List.range m.registered.length).map (m.registered[·]?) =
      m.registered.map some := by
    refine List.ext_getElem (by simp) fun n hn hn' => ?_
    simp
  calc (List.range m.registered.length).filterMap m.activeAt
      = ((List.range m.registered.length).map (m.registered[·]?)).filterMap
          (Option.filter RegisteredInstrument.active) := by rw [List.filterMap_map]; rfl
    _ = m.registered.filterMap (Option.guard RegisteredInstrument.active) := by
        rw [hnumbered, List.filterMap_map]
        rfl
    _ = m.activeOnes := by rw [List.filterMap_eq_filter]; rfl

end Metering

namespace Collection

theorem runInstalled_registered {sink : Sink (Recorder σ)} {st : Recorder σ}
    (h : (HasMetering.metering st).registered[number]? = some r) :
    runInstalled callbacks sink (.registered number) st =
      if r.active then
        orElse (callbacks r.callback sink)
          (fun f => report (Sampling.faultRecord r.instrument.name "None" f)) st
      else (.returned (), st) := by
  rw [runInstalled, bind_of_returned (read_apply st), h]
  cases hr : r.active <;> simp [hr]

theorem runInstalled_of_active {sink : Sink (Recorder σ)} {st : Recorder σ}
    (h : (HasMetering.metering st).activeAt number = some r) :
    runInstalled callbacks sink (.registered number) st =
      orElse (callbacks r.callback sink)
        (fun f => report (Sampling.faultRecord r.instrument.name "None" f)) st := by
  obtain ⟨hr, hactive⟩ := Option.filter_eq_some_iff.mp h
  exact (runInstalled_registered hr).trans (if_pos hactive)

theorem runInstalled_of_inactive {sink : Sink (Recorder σ)} {st : Recorder σ}
    (h : (HasMetering.metering st).activeAt number = none) :
    runInstalled callbacks sink (.registered number) st = (.returned (), st) := by
  cases hr : (HasMetering.metering st).registered[number]? with
  | none =>
    rw [runInstalled, bind_of_returned (read_apply st), hr]
    rfl
  | some r =>
    have hclosed : r.active = false := by simpa [Metering.activeAt, hr] using h
    rw [runInstalled_registered hr, hclosed]
    rfl

/-- Where a closed instrument stands there is nothing to sample, and nothing happens. -/
theorem sampleInstalled_of_closed
    (h : (HasMetering.metering st).registered[number]? = some r) (hr : r.active = false)
    (name : String) :
    sampleInstalled callbacks time name (.registered number) st = (.returned [], st) := by
  have hrun : runInstalled callbacks Recorder.asNumber (.registered number) ([], st) =
      (.returned (), [], st) := (runInstalled_registered h).trans (by rw [hr]; rfl)
  rw [sampleInstalled, bind_of_returned (Recorder.runOrdinary_of_returned hrun)]
  rfl

/-- An active instrument is sampled as its callback is: inside of the instrument an ordinary failure
is reported, and nothing is left to report outside. -/
theorem sampleInstalled_of_active
    (h : (HasMetering.metering st).registered[number]? = some r) (hr : r.active = true)
    (hquiet : Quiet callbacks r.callback) (hsafe : LogsSafely st) :
    sampleInstalled callbacks time r.instrument.name (.registered number) st =
      r.sample callbacks time st := by
  have hrun : runInstalled callbacks Recorder.asNumber (.registered number) ([], st) =
      orElse (callbacks r.callback Recorder.asNumber)
        (fun f => report (Sampling.faultRecord r.instrument.name "None" f)) ([], st) :=
    (runInstalled_registered h).trans (if_pos hr)
  have hsafe' : LogsSafely (callbacks r.callback Recorder.asNumber ([], st)).2.2 :=
    (hquiet ([], st)).2 hsafe
  rw [sampleInstalled, RegisteredInstrument.sample]
  rw [orElse] at hrun
  rcases hcallback : callbacks r.callback Recorder.asNumber ([], st) with ⟨o, ms, st'⟩
  rw [hcallback] at hrun hsafe'
  cases o with
  | returned _ =>
    rw [bind_of_returned (Recorder.runOrdinary_of_returned hrun),
      bind_of_returned (Recorder.runOrdinary_of_returned hcallback)]
    rfl
  | unfinished =>
    rw [bind_apply, bind_apply, Recorder.runOrdinary_of_unfinished hrun,
      Recorder.runOrdinary_of_unfinished hcallback]
  | raised f =>
    cases hf : f.isOrdinary with
    | true =>
      obtain ⟨st'', hreport⟩ : ∃ st'',
          report (Sampling.faultRecord r.instrument.name "None" f) st' =
          (.returned (), st'') :=
        ⟨_, report_of_neverFails (LogRecord.samplingRecord_isPlain _ _ f) hsafe'⟩
      have hbeside : report (Sampling.faultRecord r.instrument.name "None" f) (ms, st') =
          (.returned (), ms, st'') := congrArg (fun o => (o.1, ms, o.2)) hreport
      have hreported := hrun.trans ((if_pos hf).trans hbeside)
      rw [bind_of_returned (Recorder.runOrdinary_of_returned hreported),
        bind_of_returned (Recorder.runOrdinary_of_ordinary hcallback hf)]
      show (.returned (r.instrument.samples time ms), st'') =
        (report _ >>= fun _ => pure (r.instrument.samples time ms)) st'
      rw [bind_of_returned hreport]
      rfl
    | false =>
      have hraised := hrun.trans (if_neg (by rw [hf]; exact Bool.false_ne_true))
      rw [bind_apply, bind_apply, Recorder.runOrdinary_of_raised hraised hf,
        Recorder.runOrdinary_of_raised hcallback hf]

/-- The samples of some instruments, one after the other. -/
def sampleAll (callbacks : Interpretation K σ) (time : Value) (rs : List (RegisteredInstrument K)) :
    Act σ (List MetricSample) := do
  let samples ← Act.collect rs (RegisteredInstrument.sample callbacks time)
  return samples.flatten

theorem sampleAll_leavesMetering [LawfulMetering σ] {rs : List (RegisteredInstrument K)}
    (h : ∀ r ∈ rs, Quiet callbacks r.callback) (time : Value) :
    (leavesMetering σ).Meets (sampleAll callbacks time rs) := by
  induction rs with
  | nil => exact meets_pure _
  | cons r rest ih =>
    have hrest := ih fun x hx => h x (List.mem_cons_of_mem r hx)
    rw [sampleAll, flatten_collect_cons]
    exact meets_bind (RegisteredInstrument.sample_leavesMetering (h r List.mem_cons_self) time)
      fun _ => meets_bind hrest fun _ => meets_pure _

section Places

variable {m : Metering K} {n : Nat} (hm : m.InStep)
  (hquiet : ∀ r ∈ m.registered, Quiet callbacks r.callback)

include hm in
theorem sampleInstrument_of_inactive (hst : HasMetering.metering st = m)
    (hn : m.activeAt n = none) :
    sampleInstrument callbacks time n st = (.returned [], st) := by
  have hplace : (HasMetering.metering st).meter.instruments[n]? =
      m.registered[n]?.map fun r => ⟨r.instrument, [.registered n]⟩ := by
    rw [hst, hm.installed, List.getElem?_mapIdx]
  cases hr : m.registered[n]? with
  | none =>
    rw [hr] at hplace
    rw [sampleInstrument, bind_of_returned (read_apply st), hplace]
    rfl
  | some r =>
    rw [hr] at hplace
    rw [sampleInstrument_of_installed hplace]
    exact sampleInstalled_of_closed (hst ▸ hr) (by simpa [Metering.activeAt, hr] using hn) _

include hm hquiet

theorem sampleInstrument_of_active (hst : HasMetering.metering st = m) (hsafe : LogsSafely st)
    (hn : m.activeAt n = some r) :
    sampleInstrument callbacks time n st = r.sample callbacks time st := by
  obtain ⟨hr, hactive⟩ := Option.filter_eq_some_iff.mp hn
  have hplace : (HasMetering.metering st).meter.instruments[n]? =
      some ⟨r.instrument, [.registered n]⟩ := by
    rw [hst, hm.installed, List.getElem?_mapIdx, hr]
    rfl
  rw [sampleInstrument_of_installed hplace]
  exact sampleInstalled_of_active (hst ▸ hr) hactive (hquiet r (List.mem_of_getElem? hr)) hsafe

variable [LawfulMetering σ]

private theorem collect_places (hst : HasMetering.metering st = m) (hsafe : LogsSafely st)
    (ns : List Nat) :
    (Act.collect ns (sampleInstrument callbacks time) >>= fun bs => pure bs.flatten) st =
      sampleAll callbacks time
        (ns.filterMap m.activeAt) st := by
  induction ns generalizing st with
  | nil => rfl
  | cons n rest ih =>
    rw [flatten_collect_cons]
    cases hn : m.activeAt n with
    | none =>
      rw [bind_of_returned (sampleInstrument_of_inactive hm hst hn), List.filterMap_cons_none hn]
      simpa using ih hst hsafe
    | some r =>
      have hr := (Option.filter_eq_some_iff.mp hn).1
      have hkept := RegisteredInstrument.sample_leavesMetering
        (hquiet r (List.mem_of_getElem? hr)) time st
      rw [List.filterMap_cons_some hn, sampleAll, flatten_collect_cons]
      refine bind_congr_at (sampleInstrument_of_active hm hquiet hst hsafe hn) ?_
      intro samples st' hrun
      rw [MeetsAt, hrun] at hkept
      exact bind_congr_at (ih (hkept.1.trans hst) (hkept.2 hsafe)) fun _ _ _ => rfl

/-- A collection is one of the active instruments, in the order of their registration. -/
theorem collect_eq_sampleAll (hst : HasMetering.metering st = m) (hsafe : LogsSafely st) :
    collect callbacks time st = sampleAll callbacks time m.activeOnes st := by
  have hplaces : places st = (.returned (List.range m.registered.length), st) := by
    have hlength : m.meter.instruments.length = m.registered.length := by
      rw [hm.installed, List.length_mapIdx]
    rw [← hlength, ← hst]
    rfl
  rw [collect, bind_of_returned hplaces, ← Metering.filterMap_activeAt]
  exact collect_places hm hquiet hst hsafe _

end Places

end Collection

/-! ## Callbacks that read sources -/

theorem caught_leavesMetering {x : Act σ α} (hx : (leavesMetering σ).Meets x) :
    (leavesMetering σ).Meets (caught x) := by
  intro s
  have h := hx s
  unfold MeetsAt caught at *
  rcases hs : x s with ⟨o, s'⟩
  rw [hs] at h
  cases o with
  | returned a => exact h
  | unfinished => exact h
  | raised f =>
    dsimp only
    split <;> exact h

namespace Sampling

variable [LawfulMetering σ] {sink : Sink σ}
  (hsink : ∀ v labels, (leavesMetering σ).Meets (sink v labels))
include hsink

theorem sampleEntities_leavesMetering {E : Type} (s : EntitySampler σ E)
    (hread : ∀ e, (leavesMetering σ).Meets (s.read e))
    (hshown : ∀ e, (leavesMetering σ).Meets (s.shown e)) (entities : List (E × AttributeSet)) :
    (leavesMetering σ).Meets (sampleEntities s sink entities) := by
  induction entities with
  | nil => exact meets_give ()
  | cons e rest ih =>
    have hnumber := meets_bind (hread e.1) fun v => meets_ofExcept (s.extract v >>= Value.usable)
    refine meets_bind (caught_leavesMetering hnumber) fun o => ?_
    cases o with
    | ok v =>
      dsimp only
      split
      · exact meets_bind (hsink v _) fun _ => ih
      · exact ih
    | error f =>
      exact meets_bind (hshown e.1) fun _ => meets_bind (report_leavesMetering _) fun _ => ih

end Sampling

namespace Bench

variable {C R : Type} {run : C → Act (Bench C R) R}
  (hrun : ∀ c, (leavesMetering (Bench C R)).Meets (run c))
include hrun

theorem perform_leavesMetering (c : C) : (leavesMetering (Bench C R)).Meets (perform run c) :=
  meets_bind (hrun c) fun _ => meets_change fun _ => ⟨rfl, id⟩

theorem readPart_leavesMetering (part : Part) (n : Nat) :
    (leavesMetering (Bench C R)).Meets (readPart run part n) := by
  have hanswer : ∀ r : Reading C, (leavesMetering (Bench C R)).Meets (answer run r) := by
    intro r
    induction r with
    | value v => exact meets_give v
    | failing f => exact meets_raise f
    | unreadable typeName => exact meets_raise _
    | after commands next ih =>
      exact meets_bind (meets_forEach commands fun c _ => perform_leavesMetering hrun c) fun _ => ih
  exact meets_read fun b => meets_bind (meets_ofExcept _) hanswer b

theorem runScript_leavesMetering {sink : Sink (Recorder (Bench C R))}
    (hsink : ∀ v labels, (leavesMetering (Recorder (Bench C R))).Meets (sink v labels))
    (items : List (ScriptItem C)) :
    (leavesMetering (Recorder (Bench C R))).Meets (runScript run sink items) := by
  induction items with
  | nil => exact meets_give ()
  | cons item rest ih =>
    cases item with
    | record v labels =>
      exact meets_bind (meets_ofExcept _) fun set => meets_bind (hsink v set.entries) fun _ => ih
    | fail f => exact meets_bind (meets_raise f) fun _ => ih
    | perform c => exact meets_bind (meets_beside (perform_leavesMetering hrun c)) fun _ => ih

/-- Every callback of a bench is quiet if all commands are. -/
theorem quiet_interpret (k : Callback C) : Quiet (interpret run) k := by
  unfold Quiet
  cases k with
  | listed cache part extractor instrument =>
    rw [interpret_listed]
    exact sampleEntities_leavesMetering meets_asNumber _
      (fun n => meets_beside (readPart_leavesMetering hrun part n))
      (fun n => meets_beside (meets_read fun b => meets_pure _ b)) _
  | dual readers extractor labelKey instrument =>
    by_cases htwo : readers.length = 2
    · rw [interpret_dual run htwo]
      exact sampleEntities_leavesMetering meets_asNumber _
        (fun e => meets_beside (readPart_leavesMetering hrun e.2.2 e.2.1))
        (fun e => meets_beside (meets_pure _)) _
    · -- without two categories there is nothing to sample: the callback fails at once
      match readers, htwo with
      | [], _ => exact fun _ => ⟨rfl, id⟩
      | [_], _ => exact fun _ => ⟨rfl, id⟩
      | [_, _], h => exact absurd rfl h
      | _ :: _ :: _ :: _, _ => exact fun _ => ⟨rfl, id⟩
  | script items => exact runScript_leavesMetering hrun meets_asNumber items

end Bench

end AspectAgent
