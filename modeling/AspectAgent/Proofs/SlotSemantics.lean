import AspectAgent.Proofs.InstrumentLifecycle
import AspectAgent.Proofs.SlottedMeter

/-!
# Slots and their history

Any number of registries share a slotted meter. Instruments are registered with them, closed and
registered anew under the same names, in any order and also while one of them is observed. The meter
has one counter for each name that has ever been given, as it was first asked for, and in the slot
of the counter stands the instrument that was registered last under the name, whichever registry
made it. An observation runs the callback of this instrument if it is active, and nothing otherwise.
What has been closed stays closed, and what has been displaced comes into no slot again.
-/

namespace AspectAgent

open Act HasMetering

namespace Metering

variable {K : Type} {m : Metering K} {given : List (Instrument × K)} {n : Nat}

/-- A slotted meter, and no instrument yet. -/
structure Vacant (m : Metering K) : Prop where
  slotted : m.meter.style = .slotted
  instruments : m.meter.instruments = []
  registered : m.registered = []

/-- The instruments with their callbacks have been registered in this order: they have their numbers
from it, the slots hold the last of each name, and each counter is as the first of its name. -/
structure HasHistory (m : Metering K) (given : List (Instrument × K)) : Prop where
  slots : m.Slots
  registered : (m.registered.map fun r => (r.instrument, r.callback)) = given
  counters : ∀ name,
    ((m.meter.instruments.map MeterInstrument.instrument).filter fun i => i.name = name) =
      ((given.map Prod.fst).find? fun i => i.name = name).toList

namespace HasHistory

theorem of_vacant (h : m.Vacant) : m.HasHistory [] where
  slots := .of_empty h.slotted h.instruments h.registered
  registered := by rw [h.registered]; rfl
  counters name := by rw [h.instruments]; rfl

/-- A further registry has no instruments yet. -/
theorem addRegistry (h : m.HasHistory given) : m.addRegistry.2.HasHistory given where
  slots := ⟨h.slots.slotted, h.slots.distinct, h.slots.last, h.slots.given⟩
  registered := h.registered
  counters := h.counters

theorem close (h : m.HasHistory given) (number : Nat) : (m.close number).HasHistory given where
  slots := h.slots.close number
  registered := by
    rw [← h.registered, registered_close]
    exact map_modify_of_eq (by exact fun _ => rfl) _ _
  counters := by rw [meter_close]; exact h.counters

theorem givenNames (h : m.HasHistory given) : m.givenNames = given.map fun x => x.1.name := by
  rw [← h.registered, List.map_map]
  rfl

theorem length_registered (h : m.HasHistory given) : m.registered.length = given.length := by
  rw [← h.registered, List.length_map]

theorem getElem?_given (h : m.HasHistory given) (n : Nat) :
    given[n]? = m.registered[n]?.map fun r => (r.instrument, r.callback) := by
  rw [← h.registered, List.getElem?_map]

/-- A name that has a counter has been given, and the other way round. -/
theorem find?_eq_none_iff (h : m.HasHistory given) (name : String) :
    ((given.map Prod.fst).find? fun i => i.name = name) = none ↔
      ∀ x ∈ m.meter.instruments, x.instrument.name ≠ name := by
  rw [← Option.toList_eq_nil_iff, ← h.counters, List.filter_eq_nil_iff]
  simp

/-- A registration asks for a counter only if its name is new. -/
theorem added (h : m.HasHistory given) (registry : Nat) (i : Instrument) (k : K) :
    (m.added registry i k).HasHistory (given ++ [(i, k)]) where
  slots := h.slots.added registry i k
  registered := by
    show (m.registered ++ [_]).map _ = _
    rw [List.map_append, h.registered]
    rfl
  counters name := by
    show ((m.meter.provideWith i [_]).2.instruments.map _).filter _ = _
    rw [List.map_append, List.find?_append]
    cases hplace : m.meter.place? i.name with
    | none =>
      have hnew := (h.find?_eq_none_iff i.name).mpr (Meter.place?_eq_none h.slots.slotted hplace)
      rw [Meter.instruments_provideWith_of_none h.slots.slotted hplace, List.map_append,
        List.filter_append, h.counters]
      by_cases hname : i.name = name
      · rw [← hname, hnew]
        simp
      · simp [hname]
    | some place =>
      obtain ⟨x, hx, hxname⟩ := Meter.place?_eq_some h.slots.slotted hplace
      have hsame : ((m.meter.provideWith i [.registered m.registered.length]).2.instruments.map
          MeterInstrument.instrument) = m.meter.instruments.map MeterInstrument.instrument := by
        rw [Meter.instruments_provideWith_of_some h.slots.slotted hplace]
        exact map_modify_of_eq (by exact fun _ => rfl) _ _
      rw [hsame, h.counters]
      by_cases hname : i.name = name
      · have hold : ((given.map Prod.fst).find? fun i => i.name = name) ≠ none := fun hnone =>
          (h.find?_eq_none_iff name).mp hnone x (List.mem_of_getElem? hx) (hxname.trans hname)
        obtain ⟨first, hfirst⟩ := Option.ne_none_iff_exists'.mp hold
        rw [hfirst]
        rfl
      · simp [hname]

end HasHistory

end Metering

/-- Something later stands in the list under the same name. -/
def Displaced (names : List String) (n : Nat) : Prop :=
  ∃ name n', names[n]? = some name ∧ names[n']? = some name ∧ n < n'

theorem Displaced.append {names : List String} {n : Nat} (h : Displaced names n)
    (more : List String) : Displaced (names ++ more) n := by
  obtain ⟨name, n', hn, hn', hlt⟩ := h
  have hmore : ∀ j, names[j]? = some name → (names ++ more)[j]? = some name := fun j hj =>
    (List.getElem?_append_left (List.getElem?_eq_some_iff.mp hj).1).trans hj
  exact ⟨name, n', hmore n hn, hmore n' hn', hlt⟩

theorem Displaced.not_isLast {names : List String} {n : Nat} (h : Displaced names n)
    (name : String) : ¬IsLast names name n := by
  obtain ⟨name', n', hn, hn', hlt⟩ := h
  intro hlast
  obtain rfl : name' = name := Option.some.inj (hn.symm.trans hlast.1)
  exact absurd (hlast.2 n' hn') (by omega)

section Run

variable {σ K : Type} [HasMetering σ K] [HasChannel σ]

/-- A state is reached from another one by registrations, those that succeed in the order given, by
closings and by further registries. Whatever else happens leaves the meter and the registries as
they are. -/
inductive SlotRun (st₀ : σ) : List (Instrument × K) → σ → Prop
  | start : SlotRun st₀ [] st₀
  | registered {given : List (Instrument × K)} {st st' : σ} {registry number : Nat} {i : Instrument}
      {k : K} (h : SlotRun st₀ given st)
      (hrun : Metering.registering registry i (some k) st = (.returned number, st')) :
      SlotRun st₀ (given ++ [(i, k)]) st'
  | refused {given : List (Instrument × K)} {st st' : σ} {registry : Nat} {i : Instrument}
      {callback : Option K} {f : Failure} (h : SlotRun st₀ given st)
      (hrun : Metering.registering registry i callback st = (.raised f, st')) :
      SlotRun st₀ given st'
  | closed {given : List (Instrument × K)} {st : σ} (h : SlotRun st₀ given st) (number : Nat) :
      SlotRun st₀ given (setMetering ((metering st).close number) st)
  | deregistered {given : List (Instrument × K)} {st : σ} (h : SlotRun st₀ given st)
      (registry : Nat)
      (name : String) :
      SlotRun st₀ given (setMetering ((metering st).deregister registry name).2 st)
  | opened {given : List (Instrument × K)} {st : σ} (h : SlotRun st₀ given st) :
      SlotRun st₀ given (setMetering (metering st).addRegistry.2 st)
  | other {given : List (Instrument × K)} {st st' : σ} (h : SlotRun st₀ given st)
      (hkept : (leavesMetering σ).allows true st st') : SlotRun st₀ given st'

namespace SlotRun

variable {st₀ st st' : σ} {given more : List (Instrument × K)}

theorem append (h : SlotRun st₀ given st) (h' : SlotRun st more st') :
    SlotRun st₀ (given ++ more) st' := by
  induction h' with
  | start => rw [List.append_nil]; exact h
  | registered _ hrun ih => rw [← List.append_assoc]; exact ih.registered hrun
  | refused _ hrun ih => exact ih.refused hrun
  | closed _ number ih => exact ih.closed number
  | deregistered _ registry name ih => exact ih.deregistered registry name
  | opened _ ih => exact ih.opened
  | other _ hkept ih => exact ih.other hkept

variable [LawfulMetering σ] {registry number : Nat} {i : Instrument}

/-- A registration that succeeds gives the next number to an active instrument. -/
theorem of_registered {k : K} (hsafe : LogsSafely st)
    (hrun : Metering.registering registry i (some k) st = (.returned number, st')) :
    number = (metering st).registered.length ∧ metering st' = (metering st).added registry i k ∧
      LogsSafely st' := by
  cases hfind : (metering st).find? registry i.name with
  | some n =>
    rw [Metering.registering_of_taken hfind] at hrun
    cases hrun
  | none =>
    cases hrefusal : (metering st).meter.refusal? i with
    | some f =>
      rw [Metering.registering_of_refused hfind hrefusal] at hrun
      cases hrun
    | none =>
      obtain ⟨st₁, hfree, hadded, hsafe₁⟩ :=
        Metering.registering_of_free hfind hrefusal hsafe (k := k)
      rw [hfree] at hrun
      cases hrun
      exact ⟨rfl, hadded, hsafe₁⟩

/-- A registration that is refused changes nothing. -/
theorem of_refused {callback : Option K} {f : Failure} (hsafe : LogsSafely st)
    (hrun : Metering.registering registry i callback st = (.raised f, st')) : st' = st := by
  cases callback with
  | none =>
    cases hrun
    rfl
  | some k =>
    cases hfind : (metering st).find? registry i.name with
    | some n =>
      rw [Metering.registering_of_taken hfind] at hrun
      cases hrun
      rfl
    | none =>
      cases hrefusal : (metering st).meter.refusal? i with
      | some g =>
        rw [Metering.registering_of_refused hfind hrefusal] at hrun
        cases hrun
        rfl
      | none =>
        obtain ⟨st₁, hfree, -⟩ := Metering.registering_of_free hfind hrefusal hsafe (k := k)
        rw [hfree] at hrun
        cases hrun

/-- What stays true along a run: the history grows by what is registered, no handler raises, and
what is closed stays closed. -/
structure Keeps (given : List (Instrument × K)) (st st' : σ) : Prop where
  history : (metering st').HasHistory given
  safe : LogsSafely st'
  closed : ∀ n, (metering st).IsClosed n → (metering st').IsClosed n

theorem keeps_of_setMetering {m : Metering K} (h : Keeps given st₀ st) (hm : m.HasHistory given)
    (hclosed : ∀ n, (metering st).IsClosed n → m.IsClosed n) :
    Keeps given st₀ (setMetering m st) := by
  constructor
  · rw [LawfulMetering.metering_setMetering]
    exact hm
  · unfold LogsSafely
    rw [LawfulMetering.channel_setMetering]
    exact h.safe
  · intro n hn
    rw [LawfulMetering.metering_setMetering]
    exact hclosed n (h.closed n hn)

theorem keeps (h : SlotRun st more st') (hhistory : (metering st).HasHistory given)
    (hsafe : LogsSafely st) : Keeps (given ++ more) st st' := by
  induction h with
  | start => exact ⟨by rwa [List.append_nil], hsafe, fun _ => id⟩
  | @registered more st₁ st₂ registry number i k _ hrun ih =>
    obtain ⟨-, hadded, hsafe₂⟩ := of_registered ih.safe hrun
    refine ⟨?_, hsafe₂, fun n hn => hadded ▸ (ih.closed n hn).added registry i k⟩
    rw [hadded, ← List.append_assoc]
    exact ih.history.added registry i k
  | refused _ hrun ih =>
    rw [of_refused ih.safe hrun]
    exact ih
  | closed _ number ih =>
    exact keeps_of_setMetering ih (ih.history.close number) fun n hn => hn.close number
  | @deregistered _ st₁ _ registry name ih =>
    rcases (metering st₁).deregister_eq registry name with hsame | ⟨number, hclose⟩
    · rw [hsame]
      exact keeps_of_setMetering ih ih.history fun _ => id
    · rw [hclose]
      exact keeps_of_setMetering ih (ih.history.close number) fun n hn => hn.close number
  | opened _ ih => exact keeps_of_setMetering ih ih.history.addRegistry fun _ => id
  | other _ hkept ih =>
    exact ⟨hkept.1 ▸ ih.history, hkept.2 ih.safe, fun n hn => hkept.1 ▸ ih.closed n hn⟩

end SlotRun

/-! ## Observations -/

namespace Collection

variable [LawfulMetering σ] {callbacks : Interpretation K σ} {st₀ st st' : σ}
  {given more : List (Instrument × K)} {place n : Nat} {x : MeterInstrument K}
  {r : RegisteredInstrument K}

omit [LawfulMetering σ] in
/-- Where a closed instrument stands nothing is found, and nothing happens. -/
theorem observe_of_closed (hx : (metering st).meter.instruments[place]? = some x)
    (hn : x.installed = [.registered n]) (hclosed : (metering st).activeAt n = none) :
    observe callbacks place st = (.returned [⟨x.instrument, .ok []⟩], st) := by
  obtain ⟨i, installed⟩ := x
  obtain rfl : installed = [.registered n] := hn
  have hrun : runInstalled callbacks Recorder.asIs (.registered n) ([], st) =
      (.returned (), [], st) := runInstalled_of_inactive hclosed
  rw [observe_of_installed callbacks hx, bind_of_returned (Recorder.runOrdinary_of_returned hrun)]
  rfl

/-- Where an active instrument stands its callback is run, and what it records is found, whether it
then returns or fails in an ordinary way. -/
theorem observe_of_active (hx : (metering st).meter.instruments[place]? = some x)
    (hn : x.installed = [.registered n]) (hactive : (metering st).activeAt n = some r)
    {e : Except Failure Unit} {ms : List Measurement}
    (hcallback : callbacks r.callback Recorder.asIs ([], st) = (Outcome.ofExcept e, ms, st'))
    (hordinary : ∀ f, e = .error f → f.isOrdinary = true) (hsafe : LogsSafely st') :
    ∃ st'', observe callbacks place st = (.returned [⟨x.instrument, .ok ms⟩], st'') ∧
      (leavesMetering σ).allows true st' st'' := by
  obtain ⟨i, installed⟩ := x
  obtain rfl : installed = [.registered n] := hn
  have hinstalled : runInstalled callbacks Recorder.asIs (.registered n) ([], st) =
      orElse (callbacks r.callback Recorder.asIs)
        (fun f => report (Sampling.faultRecord r.instrument.name "None" f)) ([], st) :=
    runInstalled_of_active hactive
  have hfinish {st'' : σ} (hrun : runInstalled callbacks Recorder.asIs (.registered n) ([], st) =
      (.returned (), ms, st'')) :
      observe callbacks place st = (.returned [⟨i, .ok ms⟩], st'') := by
    rw [observe_of_installed callbacks hx, bind_of_returned (Recorder.runOrdinary_of_returned hrun)]
    rfl
  cases e with
  | ok _ =>
    refine ⟨st', hfinish ?_, (leavesMetering σ).refl true st'⟩
    exact hinstalled.trans (orElse_of_returned hcallback)
  | error f =>
    -- the instrument reports the failure of its callback, and the report changes diagnostics only
    have hplain := LogRecord.samplingRecord_isPlain r.instrument.name "None" f
    have hreport := report_of_neverFails hplain hsafe
    have hbeside : report (Sampling.faultRecord r.instrument.name "None" f) (ms, st') =
        (.returned (), ms, (report (Sampling.faultRecord r.instrument.name "None" f) st').2) := by
      rw [hreport]
      exact report_of_neverFails (s := (ms, st')) hplain hsafe
    refine ⟨(report (Sampling.faultRecord r.instrument.name "None" f) st').2, hfinish ?_, ?_⟩
    · rw [hinstalled, orElse, hcallback]
      exact (if_pos (hordinary f rfl)).trans hbeside
    · have hkept := report_leavesMetering (Sampling.faultRecord r.instrument.name "None" f) st'
      rw [Contract.MeetsAt, hreport] at hkept
      rw [hreport]
      exact hkept

end Collection

/-- **Slots.** Let instruments be registered with any registries of a slotted meter, closed and
registered anew, in any order, and let no handler raise. The meter then has exactly one counter for
each name that has been given, as it was first asked for. In the slot of a counter stands the
instrument that was registered last under its name. If it is closed, an observation finds nothing
and does nothing; if it is active, an observation runs its callback and finds just what this
records, also if it fails, and also if it registers and closes instruments itself. To close an
instrument is to close it alone. What is closed stays closed, and what has been displaced is in no
slot of any later state; so neither is run again. -/
theorem slot_semantics [LawfulMetering σ] (callbacks : Interpretation K σ) {st₀ st : σ}
    {given : List (Instrument × K)} (hvacant : (metering st₀).Vacant) (hsafe : LogsSafely st₀)
    (hrun : SlotRun st₀ given st) :
    (∀ name, (((metering st).meter.instruments.map MeterInstrument.instrument).filter
        fun i => i.name = name) = ((given.map Prod.fst).find? fun i => i.name = name).toList) ∧
    (∀ (place : Nat) x, (metering st).meter.instruments[place]? = some x → ∃ n r,
      IsLast (given.map fun y => y.1.name) x.instrument.name n ∧
      given[n]? = some (r.instrument, r.callback) ∧ (metering st).registered[n]? = some r ∧
      x.installed = [.registered n] ∧
      (r.active = false →
        Collection.observe callbacks place st = (.returned [⟨x.instrument, .ok []⟩], st)) ∧
      (r.active = true → ∀ e ms st' more,
        callbacks r.callback Recorder.asIs ([], st) = (Outcome.ofExcept e, ms, st') →
        (∀ f, e = .error f → f.isOrdinary = true) → SlotRun st more st' →
        ∃ st'', Collection.observe callbacks place st =
            (.returned [⟨x.instrument, .ok ms⟩], st'') ∧ SlotRun st₀ (given ++ more) st'')) ∧
    (∀ registry i k number st',
      Metering.registering registry i (some k) st = (.returned number, st') →
        number = given.length ∧
        (metering st').activeAt number = some ⟨i, k, some registry, true⟩) ∧
    (∀ number n, number < given.length →
      (((metering st).close number).IsClosed n ↔ (metering st).IsClosed n ∨ n = number)) ∧
    (∀ n, (metering st).IsClosed n → ∀ more st', SlotRun st more st' → (metering st').IsClosed n) ∧
    ∀ n, Displaced (given.map fun y => y.1.name) n → ∀ more st', SlotRun st more st' →
      ∀ x ∈ (metering st').meter.instruments, x.installed ≠ [.registered n] := by
  obtain ⟨hhistory, hsafe, -⟩ := hrun.keeps (.of_vacant hvacant) hsafe
  rw [List.nil_append] at hhistory
  refine ⟨hhistory.counters, fun place x hx => ?_, fun registry i k number st' hregistered => ?_,
    fun number n hlt => ?_, fun n hclosed more st' hmore => ?_,
    fun n hdisplaced more st' hmore => ?_⟩
  · obtain ⟨n, hn, hlast⟩ := hhistory.slots.last x (List.mem_of_getElem? hx)
    rw [hhistory.givenNames] at hlast
    have hlt : n < (metering st).registered.length := by
      have hlt := (List.getElem?_eq_some_iff.mp hlast.1).1
      rwa [List.length_map, ← hhistory.length_registered] at hlt
    have hr := List.getElem?_eq_getElem hlt
    have hgiven := hhistory.getElem?_given n
    rw [hr] at hgiven
    refine ⟨n, _, hlast, hgiven, hr, hn, fun hclosed => ?_, fun hactive e ms st' more hcallback
      hordinary hmore => ?_⟩
    · have hnone : (metering st).activeAt n = none := by
        rw [Metering.activeAt, hr, Option.filter_some, hclosed]
        rfl
      exact Collection.observe_of_closed hx hn hnone
    · have hsome : (metering st).activeAt n = some (metering st).registered[n] := by
        rw [Metering.activeAt, hr, Option.filter_some, hactive]
        rfl
      obtain ⟨st'', hobserve, hkept⟩ := Collection.observe_of_active hx hn hsome hcallback hordinary
        (hmore.keeps hhistory hsafe).safe
      exact ⟨st'', hobserve, (hrun.append hmore).other hkept⟩
  · obtain ⟨hnumber, hadded, -⟩ := SlotRun.of_registered hsafe hregistered
    refine ⟨hnumber.trans hhistory.length_registered, ?_⟩
    rw [hadded, Metering.activeAt_added, if_pos hnumber]
  · exact Metering.isClosed_close (hhistory.length_registered ▸ hlt)
  · exact (hmore.keeps hhistory hsafe).closed n hclosed
  · intro x hx hn
    have hlater := (hmore.keeps hhistory hsafe).history
    obtain ⟨n', hn', hlast⟩ := hlater.slots.last x hx
    rw [hn] at hn'
    cases hn'
    rw [hlater.givenNames, List.map_append] at hlast
    exact (hdisplaced.append _).not_isLast _ hlast

end Run

namespace Bench

/-- A slotted meter that two registries share. -/
def shared : Bench Unit Unit where
  metering := { meter := { style := .slotted }, registries := [[], []] }

/-- The pool once more, in another unit. -/
def poolInBlocks : Instrument := { pool with unit := "1" }

/-- A callback that records one measurement with a label, and then fails. -/
def failingGauge : Callback Unit :=
  .script [.record (.int 2) [("pool", .text "new")], .fail .readingNaN]

/-- A pool is registered with one registry and then with the other, in another unit. Then the first
registration is closed. -/
def taken : Bench Unit Unit :=
  let first := (Metering.registering 0 pool (some gauge) shared).2
  let second := (Metering.registering 1 poolInBlocks (some failingGauge) first).2
  setMetering (second.metering.close 0) second

theorem slotRun_taken : SlotRun shared [(pool, gauge), (poolInBlocks, failingGauge)] taken := by
  let first := (Metering.registering 0 pool (some gauge) shared).2
  have hfirst : Metering.registering 0 pool (some gauge) shared = (.returned 0, first) := rfl
  have hsecond : Metering.registering 1 poolInBlocks (some failingGauge) first =
      (.returned 1, (Metering.registering 1 poolInBlocks (some failingGauge) first).2) := rfl
  exact .closed ((SlotRun.start.registered hfirst).registered hsecond) 0

theorem slot_semantics_of_taken :
    shared.metering.Vacant ∧ LogsSafely shared ∧
      SlotRun shared [(pool, gauge), (poolInBlocks, failingGauge)] taken ∧
      ((taken.metering.meter.instruments.map MeterInstrument.instrument).filter
        fun i => i.name = "pool") = [pool] ∧
      ∃ b, Collection.observe (interpret fun _ => Act.give ()) 0 taken =
        (.returned [⟨pool, .ok [⟨.int 2, [("pool", .text "new")]⟩]⟩], b) := by
  have hvacant : shared.metering.Vacant := ⟨rfl, rfl, rfl⟩
  have hsafe : LogsSafely shared := fun h hh => absurd hh List.not_mem_nil
  have htaken : taken.metering.meter.instruments[0]? = some ⟨pool, [.registered 1]⟩ := rfl
  obtain ⟨hcounters, hslots, -⟩ :=
    slot_semantics (interpret fun _ => Act.give ()) hvacant hsafe slotRun_taken
  obtain ⟨n, r, -, -, hr, hn, -, hactive⟩ := hslots 0 _ htaken
  cases hn
  cases hr
  obtain ⟨b, hobserve, -⟩ := hactive rfl (.error .readingNaN)
    [⟨.int 2, [("pool", .text "new")]⟩] taken [] rfl (fun f hf => by cases hf; rfl) .start
  exact ⟨hvacant, hsafe, slotRun_taken, hcounters "pool", b, hobserve⟩

end Bench

end AspectAgent
