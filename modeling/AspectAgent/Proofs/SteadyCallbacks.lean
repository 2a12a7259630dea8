import AspectAgent.Proofs.SlottedMeter

/-!
# Steady callbacks

A steady callback records some numbers and then returns or fails in an ordinary way. Which numbers,
and how it ends, is told by a part of the state; in this part it may keep what it needs for the next
time. Where the callbacks of the active instruments are steady and do not see what the others keep,
a collection on demand and the observation of a slotted meter come to the same: each finds for a
name what the active instrument of this name records. They part only where a handler raises on the
report of a failing callback. The observation then loses what it has of this one instrument. The
collection reports the failure of the handler and keeps what it has, unless this report fails as
well; then it raises as a whole.
-/

namespace AspectAgent

open Act Contract HasMetering

namespace Act

variable {σ α β E : Type}

/-- From every state with one property, the action returns a value on a condition, and the state
then has another property; if the condition does not hold, it raises a failure. -/
def Leads (I J : σ → Prop) (x : Act σ α) (p : Prop) (a : α) : Prop :=
  ∀ s, I s → (p ∧ ∃ s', J s' ∧ x s = (.returned a, s')) ∨ (¬p ∧ ∃ f s', x s = (.raised f, s'))

section Leads

variable {I J J' : σ → Prop} {x : Act σ α} {p q : Prop} {a : α} {b : β}

theorem Leads.returns (h : Leads I J x p a) (hp : p) {s : σ} (hs : I s) :
    ∃ s', J s' ∧ x s = (.returned a, s') := by
  rcases h s hs with ⟨-, hreturned⟩ | ⟨hno, -⟩
  · exact hreturned
  · exact absurd hp hno

theorem Leads.raises (h : Leads I J x p a) (hp : ¬p) {s : σ} (hs : I s) :
    ∃ f s', x s = (.raised f, s') := by
  rcases h s hs with ⟨hyes, -⟩ | ⟨-, hraised⟩
  · exact absurd hyes hp
  · exact hraised

theorem leads_pure (a : α) : Leads I I (pure a : Act σ α) True a :=
  fun s hs => .inl ⟨trivial, s, hs, rfl⟩

theorem Leads.bind {k : α → Act σ β} (hx : Leads I J x p a) (hk : Leads J J' (k a) q b) :
    Leads I J' (x >>= k) (p ∧ q) b := by
  intro s hs
  rcases hx s hs with ⟨hp, s', hs', hxs⟩ | ⟨hp, f, s', hxs⟩
  · rw [bind_of_returned hxs]
    rcases hk s' hs' with ⟨hq, hreturned⟩ | ⟨hq, hraised⟩
    · exact .inl ⟨⟨hp, hq⟩, hreturned⟩
    · exact .inr ⟨fun h => hq h.2, hraised⟩
  · exact .inr ⟨fun h => hp h.1, f, s', by rw [bind_apply, hxs]⟩

theorem Leads.of_iff (hx : Leads I J x p a) (h : p ↔ q) : Leads I J x q a := by
  rw [← h]
  exact hx

/-- A run over the places of a list in which nobody sees what the earlier ones have changed. -/
theorem leads_collect {I : E → σ → Prop} {k : Nat → Act σ β} {p : α → E → Prop}
    {value : α → E → β} {next : α → E → E} {xs : List α} (first : Nat)
    (hk : ∀ i x, xs[i]? = some x → ∀ e,
      Leads (I e) (I (next x e)) (k (first + i)) (p x e) (value x e))
    (hapart : xs.Pairwise fun x y => ∀ e, (p y (next x e) ↔ p y e) ∧
      value y (next x e) = value y e) (e : E) :
    Leads (I e) (I (xs.foldl (fun e x => next x e) e))
      (Act.collect (List.range' first xs.length) k) (∀ x ∈ xs, p x e) (xs.map (value · e)) := by
  induction xs generalizing first e with
  | nil => exact (leads_pure []).of_iff (by simp)
  | cons x rest ih =>
    obtain ⟨hx, hrest⟩ := List.pairwise_cons.mp hapart
    have htail := ih (first + 1)
      (fun i y hy => by rw [Nat.add_assoc, Nat.add_comm 1 i]; exact hk (i + 1) y hy) hrest
      (next x e)
    have hvalues : rest.map (value · (next x e)) = rest.map (value · e) :=
      List.map_congr_left fun y hy => (hx y hy e).2
    have hconditions : (∀ y ∈ rest, p y (next x e)) ↔ ∀ y ∈ rest, p y e :=
      forall₂_congr fun y hy => (hx y hy e).1
    rw [hvalues] at htail
    rw [List.length_cons, List.range'_succ, collect_cons]
    refine ((hk 0 x rfl e).bind (htail.bind (leads_pure (value x e :: _)))).of_iff ?_
    rw [hconditions, and_true, List.forall_mem_cons]

end Leads

end Act

private theorem flatMap_filterMap {α β γ : Type} (g : α → Option β) (k : β → List γ) (l : List α) :
    (l.filterMap g).flatMap k = l.flatMap fun x => (g x).elim [] k := by
  induction l with
  | nil => rfl
  | cons x rest ih => cases hx : g x <;> simp [hx, ih]

/-! ## What callbacks do -/

/-- The measurement with its value as a floating-point number. -/
def Measurement.converted (m : Measurement) : Except Failure Measurement :=
  m.value.toBinary64.map fun x => ⟨.float x, m.labels⟩

/-- The measurements whose values can be had as floating-point numbers, with these. -/
def Measurement.numbered (ms : List Measurement) : List Measurement :=
  ms.filterMap fun m => m.converted.toOption

theorem Measurement.map_numbered {ms : List Measurement}
    (h : ∀ m ∈ ms, ∃ x, m.value.toBinary64 = .ok x) :
    (numbered ms).map Except.ok = ms.map converted := by
  induction ms with
  | nil => rfl
  | cons m rest ih =>
    obtain ⟨x, hx⟩ := h m List.mem_cons_self
    have hm : m.converted = .ok ⟨.float x, m.labels⟩ := by
      rw [converted, hx]
      rfl
    have hrest := ih fun y hy => h y (List.mem_cons_of_mem m hy)
    rw [List.map_cons, ← hrest, hm, numbered, List.filterMap_cons, hm]
    rfl

/-- What callbacks do, told by what they see: what they record, how they end, and what they then
leave there to be seen. -/
structure Behaviour (K E : Type) where
  records : K → E → List Measurement
  ends : K → E → Except Failure Unit
  after : K → E → E

namespace Behaviour

variable {K E : Type} (B : Behaviour K E)

/-- Neither of two callbacks sees what the other leaves behind. -/
structure Apart (k k' : K) : Prop where
  records_left : ∀ e, B.records k (B.after k' e) = B.records k e
  records_right : ∀ e, B.records k' (B.after k e) = B.records k' e
  ends_left : ∀ e, B.ends k (B.after k' e) = B.ends k e
  ends_right : ∀ e, B.ends k' (B.after k e) = B.ends k' e
  commute : ∀ e, B.after k (B.after k' e) = B.after k' (B.after k e)

theorem Apart.symm {B : Behaviour K E} {k k' : K} (h : B.Apart k k') : B.Apart k' k :=
  ⟨h.records_right, h.records_left, h.ends_right, h.ends_left, fun e => (h.commute e).symm⟩

/-- What an instrument records, if there is one. -/
def shown (e : E) (r : Option (RegisteredInstrument K)) : List Measurement :=
  r.elim [] fun r => B.records r.callback e

/-- What becomes of the report on how an instrument ended, if there is one. -/
def heard (channel : LogChannel) (e : E) (r : Option (RegisteredInstrument K)) :
    Except Failure Unit :=
  r.elim (.ok ()) fun r =>
    match B.ends r.callback e with
    | .ok () => .ok ()
    | .error f => channel.verdict (Sampling.faultRecord r.instrument.name "None" f)

/-- What becomes of the collection from an instrument, if there is one. The failure of the report on
it is reported in turn. -/
def collected (channel : LogChannel) (e : E) (r : Option (RegisteredInstrument K)) :
    Except Failure Unit :=
  r.elim (.ok ()) fun x =>
    channel.excuse (Collection.failedRecord x.instrument.name) () (B.heard channel e r)

/-- What the observation of an instrument comes to. -/
def answer (channel : LogChannel) (e : E) (r : Option (RegisteredInstrument K)) :
    Except Failure (List Measurement) :=
  (B.heard channel e r).map fun _ => B.shown e r

/-- What can be seen after an instrument was sampled, if there is one. -/
def next (r : Option (RegisteredInstrument K)) (e : E) : E := r.elim e fun r => B.after r.callback e

variable {B} {channel : LogChannel} {e : E} {r r' : Option (RegisteredInstrument K)}
  {x : RegisteredInstrument K} {f : Failure}

/-- What can be collected has been heard, or its failure is an ordinary one. -/
theorem isOrdinary_of_heard (h : B.collected channel e (some x) = .ok ())
    (hf : B.heard channel e (some x) = .error f) : f.isOrdinary = true :=
  (LogChannel.excuse_isOk_iff.mp ⟨(), h⟩ f hf).1

theorem collected_of_heard (h : B.heard channel e (some x) = .ok ()) :
    B.collected channel e (some x) = .ok () := by
  rw [collected, h]
  rfl

/-- What one instrument comes to is the same after another one has been sampled. -/
theorem next_of_apart (channel : LogChannel)
    (h : ∀ x ∈ r, ∀ y ∈ r', B.Apart x.callback y.callback) (e : E) :
    B.shown (B.next r e) r' = B.shown e r' ∧
      B.heard channel (B.next r e) r' = B.heard channel e r' := by
  cases r with
  | none => exact ⟨rfl, rfl⟩
  | some x =>
    cases r' with
    | none => exact ⟨rfl, rfl⟩
    | some y =>
      have hapart := h x rfl y rfl
      refine ⟨hapart.records_right e, ?_⟩
      unfold heard next
      dsimp only [Option.elim]
      rw [hapart.ends_right e]

end Behaviour

variable {K σ E : Type} [HasMetering σ K] [HasChannel σ]

/-- What is seen of the state is no part of the meter, the registries or diagnostics. -/
structure LawfulView (see : σ → E) : Prop where
  setMetering : ∀ m s, see (setMetering m s) = see s
  setChannel : ∀ c s, see (HasChannel.setChannel c s) = see s

/-- The states with a given meter and registries, in which something given is seen, and whose
channel has the level and the handlers of a given one. -/
structure Ready (see : σ → E) (m : Metering K) (channel : LogChannel) (e : E) (st : σ) : Prop where
  metering : metering st = m
  seen : see st = e
  logs : LogsLike channel st

namespace Behaviour

/-- Of what the callback records something arrives at a sink, and the callback ends and leaves
behind what it is said to. It logs and sees what it likes, but leaves the meter and the registries
alone. -/
def Plays (B : Behaviour K E) (callbacks : Interpretation K σ) (see : σ → E)
    (sink : Sink (Recorder σ)) (arrives : List Measurement → List Measurement) (k : K) : Prop :=
  ∀ m channel e st, Ready see m channel e st → ∃ st', Ready see m channel (B.after k e) st' ∧
    callbacks k sink ([], st) = (Outcome.ofExcept (B.ends k e), arrives (B.records k e), st')

/-- The callback records numbers that can be had as floating-point numbers, and then returns or
fails in an ordinary way. -/
structure Steady (B : Behaviour K E) (callbacks : Interpretation K σ) (see : σ → E) (k : K) :
    Prop where
  representable : ∀ e, ∀ m ∈ B.records k e, ∃ x, m.value.toBinary64 = .ok x
  ordinary : ∀ e f, B.ends k e = .error f → f.isOrdinary = true
  asIs : B.Plays callbacks see Recorder.asIs id k
  asNumber : B.Plays callbacks see Recorder.asNumber Measurement.numbered k

/-- The active instruments are each the last of their name, their callbacks are steady, and none of
these sees what another leaves behind. -/
structure Rules (B : Behaviour K E) (callbacks : Interpretation K σ) (see : σ → E)
    (m : Metering K) : Prop where
  latest : m.Latest
  steady : ∀ r ∈ m.activeOnes, B.Steady callbacks see r.callback
  apart : ∀ r ∈ m.activeOnes, ∀ r' ∈ m.activeOnes, r.instrument.name ≠ r'.instrument.name →
    B.Apart r.callback r'.callback

end Behaviour

variable {B : Behaviour K E} {callbacks : Interpretation K σ} {see : σ → E} {m : Metering K}
  {channel : LogChannel} {e : E} {st : σ} {n : Nat} {time : Value}

theorem LogRecord.collectionRecord_isPlain (instrument : String) (f : Failure) :
    (Collection.failedRecord instrument f).IsPlain :=
  isPlain_of_extra rfl
    (by simp [Collection.failedRecord, Table.keys, standardFields, messageMaker]) (.inl rfl)

/-- The report of a plain record leaves everything as it is but what has been logged. -/
theorem Ready.report [LawfulMetering σ] (hsee : LawfulView see) (h : Ready see m channel e st)
    {r : LogRecord} (hr : r.IsPlain) :
    ∃ st', Ready see m channel e st' ∧
      report r st = (Outcome.ofExcept (channel.verdict r), st') := by
  obtain ⟨rfl, rfl, hlogs⟩ := h
  obtain ⟨st', hreport, hlogs'⟩ :=
    report_settles LawfulMetering.channel_setChannel hr channel st hlogs
  have hst' : st' = HasChannel.setChannel ((HasChannel.channel st).logged r) st := by
    rw [report_of_plain hr] at hreport
    exact (congrArg Prod.snd hreport).symm
  refine ⟨st', ⟨?_, ?_, hlogs'⟩, hreport⟩
  · rw [hst', LawfulMetering.metering_setChannel]
  · rw [hst', hsee.setChannel]

namespace Collection

variable [LawfulMetering σ] (hsee : LawfulView see)
include hsee

/-- What is installed under a number does what the active instrument of this number does, and ends
in what becomes of its report. -/
theorem runInstalled_of_plays {sink : Sink (Recorder σ)}
    {arrives : List Measurement → List Measurement} (hnothing : arrives [] = [])
    (hplays : ∀ r ∈ m.activeAt n, B.Plays callbacks see sink arrives r.callback ∧
      ∀ e f, B.ends r.callback e = .error f → f.isOrdinary = true)
    (h : Ready see m channel e st) :
    ∃ st', Ready see m channel (B.next (m.activeAt n) e) st' ∧
      runInstalled callbacks sink (.registered n) ([], st) =
        (Outcome.ofExcept (B.heard channel e (m.activeAt n)),
          arrives (B.shown e (m.activeAt n)), st') := by
  have hst : metering (([], st) : Recorder σ) = m := h.metering
  cases hn : m.activeAt n with
  | none =>
    refine ⟨st, h, ?_⟩
    rw [runInstalled_of_inactive (hst ▸ hn)]
    show _ = (Outcome.ofExcept (.ok ()), arrives [], st)
    rw [hnothing]
    rfl
  | some r =>
    obtain ⟨hplay, hordinary⟩ := hplays r hn
    obtain ⟨st₁, hst₁, hrun⟩ := hplay m channel e st h
    rw [runInstalled_of_active (hst ▸ hn), orElse, hrun]
    cases hends : B.ends r.callback e with
    | ok _ =>
      refine ⟨st₁, hst₁, ?_⟩
      simp [Behaviour.heard, Behaviour.shown, hends, Outcome.ofExcept]
    | error f =>
      obtain ⟨st₂, hst₂, hreport⟩ :=
        hst₁.report hsee (LogRecord.samplingRecord_isPlain r.instrument.name "None" f)
      refine ⟨st₂, hst₂, ?_⟩
      have hbeside : report (Sampling.faultRecord r.instrument.name "None" f)
          (arrives (B.records r.callback e), st₁) =
            (Outcome.ofExcept
              (channel.verdict (Sampling.faultRecord r.instrument.name "None" f)),
              arrives (B.records r.callback e), st₂) :=
        congrArg (fun o => (o.1, arrives (B.records r.callback e), o.2)) hreport
      simpa [Behaviour.heard, Behaviour.shown, hends, Outcome.ofExcept, hordinary e f hends]
        using hbeside

/-! ## Collections -/

variable (hrules : B.Rules callbacks see m)
include hrules

theorem sampleInstalled_leads (name : String) (n : Nat) (e : E) :
    Leads (Ready see m channel e) (Ready see m channel (B.next (m.activeAt n) e))
      (sampleInstalled callbacks time name (.registered n))
      (channel.excuse (failedRecord name) () (B.heard channel e (m.activeAt n)) = .ok ())
      ((Measurement.numbered (B.shown e (m.activeAt n))).map fun x =>
        ⟨name, time, x.value, x.labels⟩) := by
  intro st hst
  have hsteady : ∀ r ∈ m.activeAt n, B.Steady callbacks see r.callback :=
    fun r hr => hrules.steady r (Metering.mem_activeOnes.mpr ⟨n, hr⟩)
  obtain ⟨st₁, hst₁, hrun⟩ := runInstalled_of_plays hsee (rfl : Measurement.numbered [] = [])
    (fun r hr => ⟨(hsteady r hr).asNumber, (hsteady r hr).ordinary⟩) hst
  cases hheard : B.heard channel e (m.activeAt n) with
  | ok _ =>
    rw [hheard] at hrun
    refine .inl ⟨rfl, st₁, hst₁, ?_⟩
    rw [sampleInstalled, bind_of_returned (Recorder.runOrdinary_of_returned hrun)]
    rfl
  | error f =>
    rw [hheard] at hrun
    have hraises : ∀ f : Failure, (Except.error f : Except Failure Unit) ≠ .ok () := by
      rintro f ⟨⟩
    cases hf : f.isOrdinary with
    | false =>
      refine .inr ⟨?_, f, st₁, ?_⟩
      · rw [LogChannel.excuse, hf]
        exact hraises f
      · rw [sampleInstalled, bind_apply, Recorder.runOrdinary_of_raised hrun hf]
    | true =>
      -- the failure of the first report is reported once more
      obtain ⟨st₂, hst₂, hreport⟩ := hst₁.report hsee (LogRecord.collectionRecord_isPlain name f)
      have hsampled : sampleInstalled callbacks time name (.registered n) st =
          (report (failedRecord name f) >>= fun _ => pure
            ((Measurement.numbered (B.shown e (m.activeAt n))).map fun x =>
              ⟨name, time, x.value, x.labels⟩)) st₁ := by
        rw [sampleInstalled, bind_of_returned (Recorder.runOrdinary_of_ordinary hrun hf)]
      rw [LogChannel.excuse, if_pos hf, hsampled, bind_apply, hreport]
      cases channel.verdict (failedRecord name f) with
      | ok _ => exact .inl ⟨rfl, st₂, hst₂, rfl⟩
      | error f' => exact .inr ⟨hraises f', f', st₂, rfl⟩

omit hsee [LawfulMetering σ] in
/-- What is left to be seen does not hang on the order in which active instruments are sampled. -/
theorem foldl_after {rs : List (RegisteredInstrument K)} (hperm : rs.Perm m.activeOnes) (e : E) :
    rs.foldl (fun e r => B.after r.callback e) e =
      m.activeOnes.foldl (fun e r => B.after r.callback e) e := by
  refine hperm.foldl_eq' (fun r hr r' hr' e => ?_) e
  have hmem := hperm.mem_iff.mp hr
  have hmem' := hperm.mem_iff.mp hr'
  by_cases hname : r.instrument.name = r'.instrument.name
  · have hcurrent := hrules.latest.mem_activeOnes_iff.mp hmem
    rw [hname, hrules.latest.mem_activeOnes_iff.mp hmem'] at hcurrent
    cases hcurrent
    rfl
  · exact ((hrules.apart r hmem r' hmem' hname).commute e).symm

omit hsee [LawfulMetering σ] in
/-- To go through the instruments of the meter leaves the same behind as to go through the active
ones. -/
theorem foldl_next (hperm : (m.meter.instruments.filterMap m.behind).Perm m.activeOnes) (e : E) :
    m.meter.instruments.foldl (fun e x => B.next (m.behind x) e) e =
      m.activeOnes.foldl (fun e r => B.after r.callback e) e := by
  rw [← foldl_after hrules hperm, List.foldl_filterMap]
  congr 1
  funext e x
  cases m.behind x <;> rfl

omit hsee [LawfulMetering σ] in
/-- A run over the places of the meter, when what it does at a place is up to the instrument that is
active there. -/
theorem collect_places_leads (hm : m.Singly)
    (hperm : (m.meter.instruments.filterMap m.behind).Perm m.activeOnes) {β : Type}
    {k : Nat → Act σ (List β)}
    {P : Option (RegisteredInstrument K) → Except Failure Unit → Prop} (hP : P none (.ok ()))
    {value : MeterInstrument K → E → List β}
    (hk : ∀ place x, m.meter.instruments[place]? = some x → ∀ e,
      Leads (Ready see m channel e) (Ready see m channel (B.next (m.behind x) e)) (k place)
        (P (m.behind x) (B.heard channel e (m.behind x))) (value x e))
    (hvalue : ∀ x e e', B.shown e' (m.behind x) = B.shown e (m.behind x) →
      B.heard channel e' (m.behind x) = B.heard channel e (m.behind x) → value x e' = value x e)
    (e : E) :
    Leads (Ready see m channel e)
      (Ready see m channel (m.activeOnes.foldl (fun e r => B.after r.callback e) e))
      (places >>= fun ns => Act.collect ns k >>= fun found => pure found.flatten)
      (∀ r ∈ m.activeOnes, P (some r) (B.heard channel e (some r)))
      (m.meter.instruments.flatMap (value · e)) := by
  have hplaces : Leads (Ready see m channel e) (Ready see m channel e)
      (places : Act σ (List Nat)) True (List.range' 0 m.meter.instruments.length) := by
    intro st hst
    refine .inl ⟨trivial, st, hst, ?_⟩
    rw [← hst.metering, ← List.range_eq_range']
    rfl
  have hapart : m.meter.instruments.Pairwise fun x y => ∀ e,
      (P (m.behind y) (B.heard channel (B.next (m.behind x) e) (m.behind y)) ↔
        P (m.behind y) (B.heard channel e (m.behind y))) ∧
      value y (B.next (m.behind x) e) = value y e := by
    refine (hm.pairwise_names hrules.latest).imp_of_mem fun {x y} hx hy hne e => ?_
    obtain ⟨hshown, hheard⟩ := B.next_of_apart channel (fun r hr r' hr' =>
      hrules.apart r (hm.of_behind hx hr).1 r' (hm.of_behind hy hr').1 (hne r hr r' hr')) e
    exact ⟨by rw [hheard], hvalue y e _ hshown hheard⟩
  have hcondition : (∀ x ∈ m.meter.instruments,
      P (m.behind x) (B.heard channel e (m.behind x))) ↔
        ∀ r ∈ m.activeOnes, P (some r) (B.heard channel e (some r)) :=
    hm.forall_behind_iff (p := fun r => P r (B.heard channel e r)) hperm hP
  have hall : Leads (Ready see m channel e) _ _ _ _ := leads_collect 0
    (fun i x hx e => by rw [Nat.zero_add]; exact hk i x hx e) hapart e
  rw [foldl_next hrules hperm] at hall
  rw [List.flatMap_def]
  refine (hplaces.bind (hall.bind (leads_pure (List.flatten _)))).of_iff ?_
  rw [hcondition, true_and, and_true]

/-- The place of an instrument is sampled as the active instrument that is installed there. -/
theorem sampleInstrument_leads (hm : m.Singly) (channel : LogChannel) {place : Nat}
    {x : MeterInstrument K} (hx : m.meter.instruments[place]? = some x) (time : Value) (e : E) :
    Leads (Ready see m channel e) (Ready see m channel (B.next (m.behind x) e))
      (sampleInstrument callbacks time place) (B.collected channel e (m.behind x) = .ok ())
      (x.instrument.samples time (Measurement.numbered (B.shown e (m.behind x)))) := by
  intro st hst
  obtain ⟨n, hn, -⟩ := hm.installed x (List.mem_of_getElem? hx)
  have hplace : (metering st).meter.instruments[place]? = some ⟨x.instrument, [.registered n]⟩ := by
    rw [hst.metering, hx, ← hn]
  have hcollected : channel.excuse (failedRecord x.instrument.name) ()
      (B.heard channel e (m.behind x)) = B.collected channel e (m.behind x) := by
    cases hbehind : m.behind x with
    | none => rfl
    | some r =>
      rw [← (hm.of_behind (List.mem_of_getElem? hx) hbehind).2]
      rfl
  rw [sampleInstrument_of_installed hplace, ← hcollected, Metering.behind_of_installed hn]
  exact sampleInstalled_leads hsee hrules _ n e st hst

/-- The place of an instrument is observed as the active instrument that is installed there. Only a
failure that is no ordinary one is raised. -/
theorem observe_leads (hm : m.Singly) (channel : LogChannel) {place : Nat} {x : MeterInstrument K}
    (hx : m.meter.instruments[place]? = some x) (e : E) :
    Leads (Ready see m channel e) (Ready see m channel (B.next (m.behind x) e))
      (observe callbacks place)
      (∀ f, B.heard channel e (m.behind x) = .error f → f.isOrdinary = true)
      [⟨x.instrument, B.answer channel e (m.behind x)⟩] := by
  intro st hst
  obtain ⟨n, hn, -⟩ := hm.installed x (List.mem_of_getElem? hx)
  rw [Metering.behind_of_installed hn]
  have hplace : (metering st).meter.instruments[place]? = some ⟨x.instrument, [.registered n]⟩ := by
    rw [hst.metering, hx, ← hn]
  have hsteady : ∀ r ∈ m.activeAt n, B.Steady callbacks see r.callback :=
    fun r hr => hrules.steady r (Metering.mem_activeOnes.mpr ⟨n, hr⟩)
  obtain ⟨st₁, hst₁, hrun⟩ := runInstalled_of_plays hsee rfl
    (fun r hr => ⟨(hsteady r hr).asIs, (hsteady r hr).ordinary⟩) hst
  rw [observe_of_installed callbacks hplace, Behaviour.answer]
  cases hheard : B.heard channel e (m.activeAt n) with
  | ok _ =>
    rw [hheard] at hrun
    refine .inl ⟨nofun, st₁, hst₁, ?_⟩
    rw [bind_of_returned (Recorder.runOrdinary_of_returned hrun)]
    rfl
  | error f =>
    rw [hheard] at hrun
    cases hf : f.isOrdinary with
    | true =>
      refine .inl ⟨fun f' hf' => by cases hf'; exact hf, st₁, hst₁, ?_⟩
      rw [bind_of_returned (Recorder.runOrdinary_of_ordinary hrun hf)]
      rfl
    | false =>
      refine .inr ⟨fun h => ?_, f, st₁, ?_⟩
      · have hordinary := h f rfl
        rw [hf] at hordinary
        cases hordinary
      · rw [bind_apply, Recorder.runOrdinary_of_raised hrun hf]

/-- A collection on demand finds what the active instruments record, in the order of registration,
and raises if one of them cannot be collected. -/
theorem collect_leads (hm : m.InStep) (channel : LogChannel) (time : Value) (e : E) :
    Leads (Ready see m channel e)
      (Ready see m channel (m.activeOnes.foldl (fun e r => B.after r.callback e) e))
      (collect callbacks time) (∀ r ∈ m.activeOnes, B.collected channel e (some r) = .ok ())
      (m.activeOnes.flatMap fun r =>
        r.instrument.samples time (Measurement.numbered (B.records r.callback e))) := by
  have hrun := collect_places_leads (P := fun r o => r.elim (.ok ()) (fun x =>
      channel.excuse (failedRecord x.instrument.name) () o) = .ok ()) hrules hm.singly
    (by rw [hm.filterMap_behind]) rfl
    (fun place x hx => sampleInstrument_leads hsee hrules hm.singly channel hx time)
    (fun x e e' hshown _ => by rw [hshown]) e
  have hsamples : (m.meter.instruments.flatMap fun x =>
      x.instrument.samples time (Measurement.numbered (B.shown e (m.behind x)))) =
        m.activeOnes.flatMap fun r =>
          r.instrument.samples time (Measurement.numbered (B.records r.callback e)) := by
    rw [← hm.filterMap_behind, flatMap_filterMap]
    refine congrArg List.flatten (List.map_congr_left fun x hx => ?_)
    cases hbehind : m.behind x with
    | none => rfl
    | some r =>
      show x.instrument.samples time _ = r.instrument.samples time _
      rw [Instrument.samples, Instrument.samples, (hm.singly.of_behind hx hbehind).2]
      rfl
  rw [hsamples] at hrun
  exact hrun

/-- The observation of a slotted meter finds for each instrument what the active instrument in its
slot comes to. -/
theorem observeAll_leads (hm : m.Slots) (channel : LogChannel) (e : E) :
    Leads (Ready see m channel e)
      (Ready see m channel (m.activeOnes.foldl (fun e r => B.after r.callback e) e))
      (observeAll callbacks)
      (∀ r ∈ m.activeOnes, ∀ f, B.heard channel e (some r) = .error f → f.isOrdinary = true)
      (m.meter.instruments.map fun x =>
        ⟨x.instrument, B.answer channel e (m.current x.instrument.name)⟩) := by
  have hrun := collect_places_leads (P := fun _ o => ∀ f, o = .error f → f.isOrdinary = true)
    hrules hm.singly (hm.perm_activeOnes hrules.latest) nofun
    (fun place x hx => observe_leads hsee hrules hm.singly channel hx)
    (fun x e e' hshown hheard => by rw [Behaviour.answer, Behaviour.answer, hshown, hheard]) e
  have hanswers : (m.meter.instruments.flatMap fun x =>
      [(⟨x.instrument, B.answer channel e (m.behind x)⟩ : Observed)]) =
        m.meter.instruments.map fun x =>
          ⟨x.instrument, B.answer channel e (m.current x.instrument.name)⟩ := by
    rw [← List.map_eq_flatMap]
    refine List.map_congr_left fun x hx => ?_
    rw [hm.behind_eq_current hrules.latest hx]
  rw [hanswers] at hrun
  exact hrun

end Collection

end AspectAgent
