import AspectAgent.Proofs.SteadyCallbacks

/-!
# Cycles of collection

A collection runs what is installed on the instruments of a meter, one after the other: by the order
in which the instruments were made, and on each by the order of installation. Where logging does not
raise and the callbacks leave the meter alone, it does not matter to the collection how a callback
ends: by returning, by a failure of its own, or because the recorder refuses a value. What it has
recorded by then is kept, what the others record is not touched, and all of it together, in order,
is what the collection returns, and what it stores.
-/

namespace AspectAgent

open Act HasMetering

/-! ## What there is to run -/

namespace Meter

variable {K : Type}

/-- What is installed on the instruments of a meter, in the order in which it is run. -/
def turns (m : Meter K) : List (Instrument × Installed K) :=
  m.instruments.flatMap fun i => i.installed.map fun x => (i.instrument, x)

theorem install_of_place {m : Meter K} (h : m.style = .onDemand)
    {before after : List (MeterInstrument K)} {i : MeterInstrument K}
    (hm : m.instruments = before ++ i :: after) (x : Installed K) :
    (m.install before.length x).instruments =
      before ++ { i with installed := i.installed ++ [x] } :: after := by
  have hmodify : ∀ g : MeterInstrument K → MeterInstrument K,
      (before ++ i :: after).modify before.length g = before ++ g i :: after := by
    intro g
    rw [List.modify_eq_take_cons_drop (by simp)]
    simp
  rw [install, hm, h]
  exact hmodify _

/-- A meter on demand makes each instrument after all others, with its callbacks in order. -/
theorem instruments_provideWith_onDemand {m : Meter K} (h : m.style = .onDemand) (i : Instrument)
    (xs : List (Installed K)) :
    (m.provideWith i xs).2.instruments = m.instruments ++ [⟨i, xs⟩] := by
  have hplace : m.place? i.name = none := by rw [place?, h]
  have hinstall : ∀ (xs installed : List (Installed K)) (made : Meter K), made.style = .onDemand →
      made.instruments = m.instruments ++ [⟨i, installed⟩] →
      (xs.foldl (fun m' x => m'.install m.instruments.length x) made).instruments =
        m.instruments ++ [⟨i, installed ++ xs⟩] := by
    intro xs
    induction xs with
    | nil =>
      intro installed made _ hmade
      rw [List.foldl_nil, hmade, List.append_nil]
    | cons x rest ih =>
      intro installed made hstyle hmade
      rw [List.foldl_cons, ih (installed ++ [x]) _ (by exact hstyle)
        (install_of_place hstyle hmade x), List.append_assoc]
      rfl
  have hmade := hinstall xs [] { m with instruments := m.instruments ++ [⟨i, []⟩] } h rfl
  simpa [provideWith, provide, hplace] using hmade

/-- What is installed on a new instrument has its turns after all others, in order. -/
theorem turns_provideWith {m : Meter K} (h : m.style = .onDemand) (i : Instrument)
    (xs : List (Installed K)) :
    (m.provideWith i xs).2.turns = m.turns ++ xs.map fun x => (i, x) := by
  rw [turns, instruments_provideWith_onDemand h, List.flatMap_append, List.flatMap_singleton]
  rfl

/-- A meter on demand gives an instrument to whoever asks for one. -/
theorem create_onDemand {m : Meter K} (h : m.style = .onDemand) (i : Instrument)
    (xs : List (Installed K)) :
    ∃ place m', m.create i xs = .ok (place, m') ∧ m'.turns = m.turns ++ xs.map fun x => (i, x) :=
  ⟨_, _, create_of_granted (refusal?_of_onDemand h i) xs, turns_provideWith h i xs⟩

end Meter

/-- The callback that is run for what is installed. A registered instrument has one only as long as
it is active. -/
def Metering.callbackOf {K : Type} (m : Metering K) : Installed K → Option K
  | .direct k => some k
  | .registered n => (m.activeAt n).map RegisteredInstrument.callback

namespace Collection

variable {K σ : Type} [HasMetering σ K] [HasChannel σ]

/-- How the ordinary failure of a callback is reported: a registered instrument reports those of its
own callback. -/
def failureRecord (m : Metering K) (i : Instrument) : Installed K → Failure → LogRecord
  | .direct _, f => failedRecord i.name f
  | .registered n, f => Sampling.faultRecord (m.nameOf n) "None" f

/-- A turn of what is installed on an instrument, which leads from one state to another. Either
there is no callback to be run, or it returns, or it fails in an ordinary way and this is reported;
what it has recorded is kept. -/
inductive Turn (callbacks : Interpretation K σ) (i : Instrument) (x : Installed K) (st : σ) :
    List Measurement → σ → Prop where
  | idle (hk : (metering st).callbackOf x = none) : Turn callbacks i x st [] st
  | returned {k : K} {ms : List Measurement} {st' : σ} (hk : (metering st).callbackOf x = some k)
    (hrun : callbacks k Recorder.asNumber ([], st) = (.returned (), ms, st')) :
    Turn callbacks i x st ms st'
  | raised {k : K} {f : Failure} {ms : List Measurement} {st' st'' : σ}
    (hk : (metering st).callbackOf x = some k)
    (hrun : callbacks k Recorder.asNumber ([], st) = (.raised f, ms, st'))
    (hf : f.isOrdinary = true)
    (hreport : report (failureRecord (metering st) i x f) st' = (.returned (), st'')) :
    Turn callbacks i x st ms st''

/-- Some turns, one after the other, and what is recorded in each. -/
inductive Turns (callbacks : Interpretation K σ) :
    List (Instrument × Installed K) → σ → List (List Measurement) → σ → Prop where
  | nil (st : σ) : Turns callbacks [] st [] st
  | cons {i : Instrument} {x : Installed K} {rest : List (Instrument × Installed K)}
    {st st' st'' : σ} {ms : List Measurement} {records : List (List Measurement)}
    (h : Turn callbacks i x st ms st') (hrest : Turns callbacks rest st' records st'') :
    Turns callbacks ((i, x) :: rest) st (ms :: records) st''

/-- The samples of what was recorded in some turns, each under the name of its instrument. -/
def samplesOf (time : Value) (turns : List (Instrument × Installed K))
    (records : List (List Measurement)) : List MetricSample :=
  (turns.zip records).flatMap fun p => p.1.1.samples time p.2

variable {callbacks : Interpretation K σ} {time : Value} {i : Instrument} {x : Installed K}
  {st st' st'' : σ} {ms : List Measurement} {records records' : List (List Measurement)}
  {turns turns' : List (Instrument × Installed K)}

theorem Turns.length (h : Turns callbacks turns st records st') :
    turns.length = records.length := by
  induction h with
  | nil => rfl
  | cons _ _ ih => exact congrArg (· + 1) ih

theorem Turns.append (h : Turns callbacks turns st records st')
    (h' : Turns callbacks turns' st' records' st'') :
    Turns callbacks (turns ++ turns') st (records ++ records') st'' := by
  induction h with
  | nil => exact h'
  | cons hturn _ ih => exact .cons hturn (ih h')

theorem samplesOf_append (h : turns.length = records.length) :
    samplesOf time (turns ++ turns') (records ++ records') =
      samplesOf time turns records ++ samplesOf time turns' records' := by
  rw [samplesOf, List.zip_append h, List.flatMap_append]
  rfl

theorem samplesOf_map (tell : Instrument × Installed K → List Measurement) :
    samplesOf time turns (turns.map tell) = turns.flatMap fun p => p.1.samples time (tell p) := by
  induction turns with
  | nil => rfl
  | cons p rest ih =>
    rw [List.flatMap_cons, ← ih]
    rfl

/-! ## A turn -/

/-- What comes of a turn are the samples of what was recorded in it, however the callback ended. -/
theorem sampleInstalled_of_turn (h : Turn callbacks i x st ms st') :
    sampleInstalled callbacks time i.name x st = (.returned (i.samples time ms), st') := by
  have of_returned : ∀ {ms st'}, runInstalled callbacks Recorder.asNumber x ([], st) =
      (.returned (), ms, st') →
        sampleInstalled callbacks time i.name x st = (.returned (i.samples time ms), st') := by
    intro ms st' hrun
    rw [sampleInstalled, bind_of_returned (Recorder.runOrdinary_of_returned hrun)]
    rfl
  cases x with
  | direct k =>
    cases h with
    | idle hk => cases hk
    | returned hk hrun =>
      cases hk
      exact of_returned hrun
    | @raised _ f _ st₁ _ hk hrun hf hreport =>
      -- the failure leaves what is installed, and the collection reports it
      cases hk
      have hinstalled : runInstalled callbacks Recorder.asNumber (.direct k) ([], st) =
          (.raised f, ms, st₁) := hrun
      rw [sampleInstalled, bind_of_returned (Recorder.runOrdinary_of_ordinary hinstalled hf)]
      exact bind_of_returned (k := fun _ => pure (i.samples time ms)) hreport
  | registered n =>
    cases h with
    | idle hk => exact of_returned (runInstalled_of_inactive (Option.map_eq_none_iff.mp hk))
    | returned hk hrun =>
      obtain ⟨r, hr, rfl⟩ := Option.map_eq_some_iff.mp hk
      have hactive : (metering (([], st) : Recorder σ)).activeAt n = some r := hr
      refine of_returned ((runInstalled_of_active hactive).trans ?_)
      rw [orElse, hrun]
    | @raised _ f _ st₁ _ hk hrun hf hreport =>
      -- the instrument reports the failure, and the collection does not see it
      obtain ⟨r, hr, rfl⟩ := Option.map_eq_some_iff.mp hk
      have hactive : (metering (([], st) : Recorder σ)).activeAt n = some r := hr
      refine of_returned ((runInstalled_of_active hactive).trans ?_)
      have hname : (metering st).nameOf n = r.instrument.name := by
        rw [Metering.nameOf, (Option.filter_eq_some_iff.mp hr).1]
        rfl
      have hbeside : report (Sampling.faultRecord r.instrument.name "None" f) (ms, st₁) =
          (.returned (), ms, st') := by
        rw [failureRecord, hname] at hreport
        exact congrArg (fun o => (o.1, ms, o.2)) hreport
      rw [orElse, hrun]
      exact (if_pos hf).trans hbeside

/-! ## A cycle -/

theorem sampleInstrument_of_turns {place : Nat} {j : MeterInstrument K}
    (hplace : (metering st).meter.instruments[place]? = some j)
    (h : Turns callbacks (j.installed.map fun x => (j.instrument, x)) st records st') :
    sampleInstrument callbacks time place st =
      (.returned (samplesOf time (j.installed.map fun x => (j.instrument, x)) records), st') := by
  have hcollect : ∀ (xs : List (Installed K)) (records : List (List Measurement)) (st : σ),
      Turns callbacks (xs.map fun x => (j.instrument, x)) st records st' →
      (Act.collect xs (sampleInstalled callbacks time j.instrument.name) >>= fun samples =>
        pure samples.flatten) st =
          (.returned (samplesOf time (xs.map fun x => (j.instrument, x)) records), st') := by
    intro xs
    induction xs with
    | nil =>
      intro records st h
      cases h
      rfl
    | cons x rest ih =>
      intro records st h
      cases h with
      | cons hturn hrest =>
        rw [flatten_collect_cons, bind_of_returned (sampleInstalled_of_turn hturn),
          bind_of_returned (ih _ _ hrest)]
        rfl
  rw [sampleInstrument, bind_of_returned (read_apply st), hplace]
  exact hcollect j.installed records st h

/-- From the states with a property, in which the meter is a given one and no handler raises, each
callback that is run records something, and then returns or fails in an ordinary way, and the
property stays. Nor does it matter to the property what is logged. -/
structure Cooperative (callbacks : Interpretation K σ) (I : σ → Prop) (meter : Meter K) : Prop where
  meter_eq : ∀ st, I st → (metering st).meter = meter
  safe : ∀ st, I st → LogsSafely st
  logged : ∀ st c, I st → c.NeverFails → I (HasChannel.setChannel c st)
  ends : ∀ st, I st → ∀ p ∈ meter.turns, ∀ k, (metering st).callbackOf p.2 = some k →
    ∃ o ms st', callbacks k Recorder.asNumber ([], st) = (Outcome.ofExcept o, ms, st') ∧ I st' ∧
      ∀ f, o = .error f → f.isOrdinary = true

theorem failureRecord_isPlain (m : Metering K) (i : Instrument) (x : Installed K) (f : Failure) :
    (failureRecord m i x f).IsPlain := by
  cases x with
  | direct k => exact LogRecord.collectionRecord_isPlain i.name f
  | registered n => exact LogRecord.samplingRecord_isPlain (m.nameOf n) "None" f

namespace Cooperative

variable {I : σ → Prop} {meter : Meter K} (h : Cooperative callbacks I meter)
include h

theorem turn_exists (hst : I st) (hx : (i, x) ∈ meter.turns) :
    ∃ ms st', Turn callbacks i x st ms st' ∧ I st' := by
  cases hk : (metering st).callbackOf x with
  | none => exact ⟨[], st, .idle hk, hst⟩
  | some k =>
    obtain ⟨o, ms, st₁, hrun, hst₁, hordinary⟩ := h.ends st hst (i, x) hx k hk
    cases o with
    | ok _ => exact ⟨ms, st₁, .returned hk hrun, hst₁⟩
    | error f =>
      have hplain := failureRecord_isPlain (metering st) i x f
      have hsafe := h.safe st₁ hst₁
      exact ⟨ms, _, .raised hk hrun (hordinary f rfl) (report_of_neverFails hplain hsafe),
        h.logged st₁ _ hst₁ (LogChannel.NeverFails.logged hsafe _)⟩

theorem turns_exist {ts : List (Instrument × Installed K)} (hts : ts ⊆ meter.turns) (hst : I st) :
    ∃ records st', Turns callbacks ts st records st' ∧ I st' := by
  induction ts generalizing st with
  | nil => exact ⟨[], st, .nil st, hst⟩
  | cons t rest ih =>
    obtain ⟨hfirst, hrest⟩ := List.cons_subset.mp hts
    obtain ⟨ms, st₁, hturn, hst₁⟩ := h.turn_exists hst hfirst
    obtain ⟨records, st₂, hturns, hst₂⟩ := ih hrest hst₁
    exact ⟨ms :: records, st₂, .cons hturn hturns, hst₂⟩

/-- The instruments that stand from a place of the meter on are sampled in their turns. -/
theorem collect_from (time : Value) {first : Nat} {js : List (MeterInstrument K)}
    (hjs : meter.instruments.drop first = js) (hst : I st) :
    ∃ records st', Turns callbacks (js.flatMap fun j => j.installed.map fun x => (j.instrument, x))
        st records st' ∧ I st' ∧
      (Act.collect (List.range' first js.length)
          (sampleInstrument callbacks time) >>= fun samples =>
        pure samples.flatten) st =
          (.returned (samplesOf time
            (js.flatMap fun j => j.installed.map fun x => (j.instrument, x)) records), st') := by
  induction js generalizing first st with
  | nil => exact ⟨[], st, .nil st, hst, rfl⟩
  | cons j rest ih =>
    have hj : meter.instruments[first]? = some j := by
      rw [← List.head?_drop, hjs, List.head?_cons]
    have hrest : meter.instruments.drop (first + 1) = rest := by
      rw [← List.tail_drop, hjs, List.tail_cons]
    have hsub : (j.installed.map fun x => (j.instrument, x)) ⊆ meter.turns := by
      intro t ht
      exact List.mem_flatMap.mpr ⟨j, List.mem_of_getElem? hj, ht⟩
    obtain ⟨records, st₁, hturns, hst₁⟩ := h.turns_exist hsub hst
    obtain ⟨records', st₂, hturns', hst₂, hcollect⟩ := ih hrest hst₁
    refine ⟨records ++ records', st₂, hturns.append hturns', hst₂, ?_⟩
    have hplace : (metering st).meter.instruments[first]? = some j := by
      rw [h.meter_eq st hst]
      exact hj
    rw [List.length_cons, List.range'_succ, flatten_collect_cons,
      bind_of_returned (sampleInstrument_of_turns hplace hturns), bind_of_returned hcollect,
      List.flatMap_cons, samplesOf_append hturns.length]
    rfl

theorem collect_returns (time : Value) (hst : I st) :
    ∃ records st', Turns callbacks meter.turns st records st' ∧ I st' ∧
      collect callbacks time st = (.returned (samplesOf time meter.turns records), st') := by
  have hplaces : places st = (.returned (List.range' 0 meter.instruments.length), st) := by
    rw [← List.range_eq_range', ← h.meter_eq st hst]
    rfl
  obtain ⟨records, st', hturns, hst', hcollect⟩ := h.collect_from time List.drop_zero hst
  refine ⟨records, st', hturns, hst', ?_⟩
  rw [collect, bind_of_returned hplaces]
  exact hcollect

end Cooperative

/-! ## Callbacks that make given calls -/

/-- Makes some calls of a sink, in order, and then returns or fails. -/
def recite {τ : Type} (final : Except Failure Unit) (sink : Sink τ) : List Measurement → Act τ Unit
  | [] => Act.ofExcept final
  | m :: rest => do
    sink m.value m.labels
    recite final sink rest

end Collection

/-- What a recorder keeps of some calls: their numbers as floating-point numbers, up to the first
value that has none. -/
def Measurement.recorded : List Measurement → List Measurement
  | [] => []
  | m :: rest =>
    match m.value.toBinary64 with
    | .ok x => ⟨.float x, m.labels⟩ :: recorded rest
    | .error _ => []

/-- How a callback ends that makes some calls of a recorder: the first one that is refused ends it.
-/
def Measurement.ending (final : Except Failure Unit) : List Measurement → Except Failure Unit
  | [] => final
  | m :: rest =>
    match m.value.toBinary64 with
    | .ok _ => ending final rest
    | .error f => .error f

theorem Value.toBinary64_isOrdinary {v : Value} {f : Failure} (h : v.toBinary64 = .error f) :
    f.isOrdinary = true := by
  have of_ifNone : ∀ (g : Failure) (x : Option Binary64), g.isOrdinary = true →
      Failure.ifNone g x = .error f → f.isOrdinary = true := by
    intro g x hg hx
    cases x with
    | some x => cases hx
    | none =>
      cases hx
      exact hg
  cases v with
  | bool b => cases h
  | float x => cases h
  | int n => exact of_ifNone .integerTooLarge (Binary64.ofInt? n) rfl h
  | text s => exact of_ifNone (.textNotConvertible s) (Binary64.ofText? s) rfl h
  | _ =>
    cases h
    rfl

theorem Measurement.ending_isOrdinary {final : Except Failure Unit} {calls : List Measurement}
    (hfinal : ∀ f, final = .error f → f.isOrdinary = true) {f : Failure}
    (h : ending final calls = .error f) : f.isOrdinary = true := by
  induction calls with
  | nil => exact hfinal f h
  | cons m rest ih =>
    rw [ending] at h
    cases hm : m.value.toBinary64 with
    | ok x =>
      rw [hm] at h
      exact ih h
    | error g =>
      rw [hm] at h
      cases h
      exact Value.toBinary64_isOrdinary hm

namespace Collection

variable {K σ : Type}

theorem recite_apply (final : Except Failure Unit) (calls kept : List Measurement) (st : σ) :
    recite final Recorder.asNumber calls (kept, st) =
      (Outcome.ofExcept (Measurement.ending final calls), kept ++ Measurement.recorded calls,
        st) := by
  induction calls generalizing kept with
  | nil =>
    rw [recite, ofExcept_apply, Measurement.ending, Measurement.recorded, List.append_nil]
  | cons m rest ih =>
    rw [recite, Measurement.ending, Measurement.recorded]
    cases hm : m.value.toBinary64 with
    | ok x =>
      have hrecord : Recorder.asNumber m.value m.labels (kept, st) =
          (.returned (), kept ++ [⟨.float x, m.labels⟩], st) := by
        rw [Recorder.asNumber, hm]
        rfl
      rw [bind_of_returned hrecord, ih, List.append_assoc]
      rfl
    | error f =>
      have hrefuse : Recorder.asNumber m.value m.labels (kept, st) = (.raised f, kept, st) := by
        rw [Recorder.asNumber, hm]
        rfl
      rw [bind_apply, hrefuse, List.append_nil]
      rfl

variable [HasMetering σ K] [HasChannel σ]

/-- The callbacks that a meter runs make given calls and then end in given ways, which are returns
and ordinary failures. -/
structure Recited (callbacks : Interpretation K σ) (m : Metering K) (calls : K → List Measurement)
    (final : K → Except Failure Unit) : Prop where
  plays : ∀ p ∈ m.meter.turns, ∀ k, m.callbackOf p.2 = some k →
    callbacks k Recorder.asNumber = recite (final k) Recorder.asNumber (calls k)
  ordinary : ∀ p ∈ m.meter.turns, ∀ k, m.callbackOf p.2 = some k →
    ∀ f, final k = .error f → f.isOrdinary = true

/-- What is recorded in a turn if callbacks make given calls. -/
def told (m : Metering K) (calls : K → List Measurement) (x : Installed K) : List Measurement :=
  ((m.callbackOf x).map fun k => Measurement.recorded (calls k)).getD []

variable {callbacks : Interpretation K σ} {m : Metering K} {calls : K → List Measurement}
  {final : K → Except Failure Unit} {i : Instrument} {x : Installed K} {st st' : σ}
  {ms : List Measurement} {records : List (List Measurement)}
  {turns : List (Instrument × Installed K)}

namespace Recited

variable [LawfulMetering σ] (h : Recited callbacks m calls final)
include h

/-- A property that does not depend on what is logged stays as well. -/
theorem cooperative {J : σ → Prop} (hJ : ∀ st c, J st → J (HasChannel.setChannel c st)) :
    Cooperative callbacks (fun st => metering st = m ∧ LogsSafely st ∧ J st) m.meter where
  meter_eq _ hst := congrArg Metering.meter hst.1
  safe _ hst := hst.2.1
  logged st c hst hc := by
    refine ⟨(LawfulMetering.metering_setChannel c st).trans hst.1, ?_, hJ st c hst.2.2⟩
    rw [LogsSafely, LawfulMetering.channel_setChannel]
    exact hc
  ends st hst p hp k hk := by
    rw [hst.1] at hk
    refine ⟨Measurement.ending (final k) (calls k), Measurement.recorded (calls k), st, ?_, hst,
      fun f => Measurement.ending_isOrdinary (h.ordinary p hp k hk)⟩
    rw [h.plays p hp k hk, recite_apply]
    rfl

theorem turn_eq (hst : metering st = m) (hx : (i, x) ∈ m.meter.turns)
    (hturn : Turn callbacks i x st ms st') : ms = told m calls x ∧ metering st' = m := by
  have hrun : ∀ {k o st₁}, (metering st).callbackOf x = some k →
      callbacks k Recorder.asNumber ([], st) = (o, ms, st₁) → ms = told m calls x ∧ st₁ = st := by
    intro k o st₁ hk hrun
    rw [hst] at hk
    rw [h.plays (i, x) hx k hk, recite_apply] at hrun
    cases hrun
    exact ⟨by rw [told, hk]; rfl, rfl⟩
  cases hturn with
  | idle hk =>
    rw [hst] at hk
    exact ⟨by rw [told, hk]; rfl, hst⟩
  | returned hk hreturned =>
    obtain ⟨hms, rfl⟩ := hrun hk hreturned
    exact ⟨hms, hst⟩
  | @raised _ f _ st₁ _ hk hraised hf hreport =>
    obtain ⟨hms, hst₁⟩ := hrun hk hraised
    have hmetering := (report_leavesMetering (failureRecord (metering st) i x f) st₁).1
    rw [hreport, hst₁] at hmetering
    exact ⟨hms, hmetering.trans hst⟩

theorem turns_eq (hst : metering st = m) (hturns : turns ⊆ m.meter.turns)
    (hrun : Turns callbacks turns st records st') :
    records = turns.map fun p => told m calls p.2 := by
  induction hrun with
  | nil => rfl
  | cons hturn _ ih =>
    obtain ⟨hfirst, hrest⟩ := List.cons_subset.mp hturns
    obtain ⟨rfl, hst'⟩ := h.turn_eq hst hfirst hturn
    rw [ih hst' hrest]
    rfl

theorem collect_eq (hst : metering st = m) (hsafe : LogsSafely st) (time : Value) :
    ∃ st', metering st' = m ∧ collect callbacks time st =
      (.returned (m.meter.turns.flatMap fun p => p.1.samples time (told m calls p.2)), st') := by
  have hcooperative := h.cooperative (J := fun _ => True) fun _ _ _ => trivial
  obtain ⟨records, st', hturns, hst', hcollect⟩ :=
    hcooperative.collect_returns time ⟨hst, hsafe, trivial⟩
  refine ⟨st', hst'.1, ?_⟩
  rw [hcollect, h.turns_eq hst (fun _ => id) hturns, samplesOf_map]

end Recited

theorem collectInto_of_collect {time : Value} {samples : List MetricSample}
    (h : collect callbacks time st = (.returned samples, st'))
    (store : List MetricSample → σ → σ) :
    collectInto callbacks store time st = (.returned samples.length, store samples st') := by
  rw [collectInto, bind_of_returned h]
  rfl

end Collection

namespace Bench

variable {C R : Type} {run : C → Act (Bench C R) R} {time : Value} {b b' : Bench C R}
  {samples : List MetricSample}

/-- On a bench the samples of a collection are written to an archive, one after the other, and the
other archives are left alone. -/
theorem collectInto_of_collect (hstyle : b.metering.meter.style = .onDemand)
    (h : Collection.collect (interpret run) time b = (.returned samples, b')) (n : Nat) :
    ∃ b'', collectInto run n time b = (.returned samples.length, b'') ∧
      (n < b'.archives.length → b''.archive n = (b'.archive n).writeAll samples) ∧
      ∀ k, k ≠ n → b''.archive k = b'.archive k := by
  refine ⟨store n samples b', ?_, ?_, ?_⟩
  · have hcheck : b.metering.meter.checkOnDemand = .ok () := by rw [Meter.checkOnDemand, hstyle]
    rw [collectInto, bind_of_returned (read_apply b), hcheck]
    exact Collection.collectInto_of_collect h _
  · intro hn
    simp [archive, store, hn]
  · intro k hk
    simp [archive, store, Ne.symm hk]

end Bench

open Collection in
/-- **The cycle of collection.** A meter that collects on demand gives a new instrument to whoever
asks for one, and what is installed on it has its turns after all that was installed before. Take
any states in which no handler raises, and in which each callback of the meter, whatever it records,
then returns or fails in an ordinary way, be it that the recorder refuses a value, without changing
the meter. From there a collection comes to an end. There are turns of everything that is installed,
one after the other, and the collection returns all that was recorded in each of them before its
callback ended, in order and under the names of the instruments; what it stores are these samples,
whose number it returns. If each callback makes given calls of the recorder, a collection returns
what these come to up to the first one that is refused, however the callbacks end, and nothing of a
closed instrument. On a bench the samples are written to an archive one after the other. -/
theorem collection_cycle {K σ : Type} [HasMetering σ K] [HasChannel σ] [LawfulMetering σ]
    (callbacks : Interpretation K σ) (time : Value) :
    (∀ m : Meter K, m.style = .onDemand → ∀ i xs, ∃ place m',
      m.create i xs = .ok (place, m') ∧ m'.turns = m.turns ++ xs.map fun x => (i, x)) ∧
    (∀ I meter, Cooperative callbacks I meter → ∀ st, I st → ∃ records st',
      Turns callbacks meter.turns st records st' ∧ I st' ∧
        collect callbacks time st = (.returned (samplesOf time meter.turns records), st') ∧
        ∀ store, collectInto callbacks store time st =
          (.returned (samplesOf time meter.turns records).length,
            store (samplesOf time meter.turns records) st')) ∧
    (∀ m calls final, Recited callbacks m calls final → ∀ st, metering st = m → LogsSafely st →
      ∃ st', metering st' = m ∧ collect callbacks time st =
        (.returned (m.meter.turns.flatMap fun p => p.1.samples time (told m calls p.2)), st')) ∧
    ∀ (C R : Type) (run : C → Act (Bench C R) R) (b b' : Bench C R) samples,
      b.metering.meter.style = .onDemand →
      collect (Bench.interpret run) time b = (.returned samples, b') → ∀ n,
        ∃ b'', Bench.collectInto run n time b = (.returned samples.length, b'') ∧
          (n < b'.archives.length → b''.archive n = (b'.archive n).writeAll samples) ∧
          ∀ k, k ≠ n → b''.archive k = b'.archive k := by
  refine ⟨fun m h i xs => Meter.create_onDemand h i xs, ?_, ?_, ?_⟩
  · intro I meter h st hst
    obtain ⟨records, st', hturns, hst', hcollect⟩ := h.collect_returns time hst
    exact ⟨records, st', hturns, hst', hcollect, collectInto_of_collect hcollect⟩
  · exact fun m calls final h st hst hsafe => h.collect_eq hst hsafe time
  · exact fun C R run b b' samples hstyle h n => Bench.collectInto_of_collect hstyle h n

namespace Bench

variable {C R : Type} {run : C → Act (Bench C R) R}

/-- A script that makes some calls and then fails, if a failure is given. -/
def scriptOf (calls : List Measurement) (failure : Option Failure) : Callback C :=
  .script (calls.map (fun m => .record m.value m.labels) ++ failure.toList.map .fail)

/-- The calls that a script makes. -/
def callsOf : Callback C → List Measurement
  | .script items => items.filterMap fun item =>
    match item with
    | .record v labels => some ⟨v, labels⟩
    | _ => none
  | _ => []

/-- How a script ends. -/
def finalOf : Callback C → Except Failure Unit
  | .script items => (items.findSome? fun item =>
      match item with
      | .fail f => some (.error f)
      | _ => none).getD (.ok ())
  | _ => .ok ()

/-- Every finite sequence of calls with labels that make an attribute set is made by a script. -/
theorem interpret_scriptOf {calls : List Measurement} {failure : Option Failure}
    (h : ∀ m ∈ calls, AttributeSet.of? m.labels = .ok { entries := m.labels })
    (sink : Sink (Recorder (Bench C R))) :
    interpret run (scriptOf calls failure) sink =
      Collection.recite (finalOf (scriptOf (C := C) calls failure)) sink
        (callsOf (scriptOf (C := C) calls failure)) := by
  induction calls with
  | nil =>
    cases failure with
    | none => rfl
    | some f => rfl
  | cons m rest ih =>
    obtain ⟨hm, hrest⟩ := List.forall_mem_cons.mp h
    have hscript : interpret run (scriptOf (m :: rest) failure) sink =
        (Act.ofExcept (AttributeSet.of? m.labels) >>= fun set => sink m.value set.entries) >>=
          fun _ => interpret run (scriptOf rest failure) sink := by
      rw [bind_assoc]
      rfl
    rw [hscript, hm, ih hrest]
    rfl

/-- Calls without labels are made as they are. -/
theorem interpret_scriptOf_bare {calls : List Measurement} (failure : Option Failure)
    (h : ∀ m ∈ calls, m.labels = []) (sink : Sink (Recorder (Bench C R))) :
    interpret run (scriptOf calls failure) sink =
      Collection.recite (finalOf (scriptOf (C := C) calls failure)) sink
        (callsOf (scriptOf (C := C) calls failure)) := by
  refine interpret_scriptOf (fun m hm => ?_) sink
  rw [h m hm]
  rfl

/-- An integer that no recorder takes. -/
def large : Value := .int (Int.pow 10 400)

/-- A script that the recorder ends, which refuses the second of three values. -/
def refused : Callback Unit :=
  scriptOf [⟨.float .one, []⟩, ⟨large, []⟩, ⟨.float .one, []⟩] none

theorem recorded_refused : Measurement.recorded (callsOf refused) = [⟨.float .one, []⟩] := by
  have hlarge : large.toBinary64 = .error .integerTooLarge :=
    (Value.toBinary64_of_isTooLarge (by decide +kernel)).1
  have hcalls : callsOf refused =
      [⟨.float .one, []⟩, ⟨large, []⟩, ⟨.float .one, []⟩] := rfl
  rw [hcalls, Measurement.recorded, Measurement.recorded, hlarge]
  rfl

/-- An instrument with two callbacks that fail, one that is registered and fails, and a closed one.
-/
def halting : Bench Unit Unit where
  metering :=
    { meter :=
        { instruments :=
            [⟨pool, [.direct refused, .direct (scriptOf [⟨.float .zero, []⟩] (some .readingNaN))]⟩,
            ⟨⟨"heap", "By", ""⟩, [.registered 0]⟩, ⟨⟨"spare", "By", ""⟩, [.registered 1]⟩] }
      registered :=
        [⟨⟨"heap", "By", ""⟩, scriptOf [⟨.float .one, []⟩] (some .readingNaN), some 0, true⟩,
          ⟨⟨"spare", "By", ""⟩, scriptOf [⟨.float .one, []⟩] none, some 0, false⟩]
      registries := [[("heap", 0)]] }
  channel := { level := 40 }
  archives := [.unbounded]

theorem recited_halting :
    Collection.Recited (interpret (R := Unit) fun _ => Act.give ()) halting.metering callsOf
      finalOf := by
  constructor
  · intro p hp k hk
    simp only [halting, Meter.turns, List.flatMap_cons, List.map_cons, List.map_nil,
      List.flatMap_nil, List.cons_append, List.nil_append, List.mem_cons, List.not_mem_nil,
      or_false] at hp
    rcases hp with rfl | rfl | rfl | rfl
    · cases hk
      exact interpret_scriptOf_bare _ (by simp) _
    · cases hk
      exact interpret_scriptOf_bare _ (by simp) _
    · cases hk
      exact interpret_scriptOf_bare _ (by simp) _
    · cases hk
  · intro p hp k hk f hf
    simp only [halting, Meter.turns, List.flatMap_cons, List.map_cons, List.map_nil,
      List.flatMap_nil, List.cons_append, List.nil_append, List.mem_cons, List.not_mem_nil,
      or_false] at hp
    rcases hp with rfl | rfl | rfl | rfl
    · cases hk
      cases hf
    · cases hk
      cases hf
      rfl
    · cases hk
      cases hf
      rfl
    · cases hk

theorem collection_cycle_of_halting :
    (Collection.Cooperative (interpret (R := Unit) fun _ => Act.give ())
        (fun b => b.metering = halting.metering ∧ LogsSafely b ∧ b.archives = [.unbounded])
        halting.metering.meter ∧
      Collection.Recited (interpret (R := Unit) fun _ => Act.give ()) halting.metering callsOf
        finalOf ∧
      LogsSafely halting ∧ halting.metering.meter.style = .onDemand) ∧
    ∃ b, collectInto (fun _ => Act.give ()) 0 .null halting = (.returned 3, b) ∧
      (b.archive 0).items =
        [⟨"pool", .null, .float .one, []⟩, ⟨"pool", .null, .float .zero, []⟩,
          ⟨"heap", .null, .float .one, []⟩] := by
  have hsafe : LogsSafely halting := nofun
  have hcooperative := recited_halting.cooperative
    (J := fun b => b.archives = [.unbounded]) fun _ _ h => h
  refine ⟨⟨hcooperative, recited_halting, hsafe, rfl⟩, ?_⟩
  obtain ⟨-, hcycle, hgiven, hbench⟩ :=
    collection_cycle (interpret (C := Unit) (R := Unit) fun _ => Act.give ()) .null
  obtain ⟨records, b', -, ⟨-, -, harchives⟩, hcollect, -⟩ :=
    hcycle _ _ hcooperative halting ⟨rfl, hsafe, rfl⟩
  obtain ⟨b₁, -, htold⟩ := hgiven _ _ _ recited_halting halting rfl hsafe
  obtain ⟨b'', hinto, hwritten, -⟩ := hbench _ _ _ _ _ _ rfl hcollect 0
  have hsamples : Collection.samplesOf .null halting.metering.meter.turns records =
      [⟨"pool", .null, .float .one, []⟩, ⟨"pool", .null, .float .zero, []⟩,
        ⟨"heap", .null, .float .one, []⟩] := by
    have hsame := hcollect.symm.trans htold
    rw [Outcome.returned.inj (congrArg Prod.fst hsame)]
    show pool.samples .null (Measurement.recorded (callsOf refused)) ++ _ = _
    rw [recorded_refused]
    rfl
  rw [hsamples] at hinto hwritten
  refine ⟨b'', hinto, ?_⟩
  have hbefore : b'.archive 0 = .unbounded := by rw [archive, harchives]; rfl
  rw [hwritten (by rw [harchives]; decide), hbefore, Archive.items_writeAll_of_unbounded rfl]
  rfl

end Bench

end AspectAgent
