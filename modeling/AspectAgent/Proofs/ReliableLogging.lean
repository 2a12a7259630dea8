import AspectAgent.Agent
import AspectAgent.Proofs.Reporting

/-!
# Reliable logging

The records that the agent writes on its own account are plain: nothing in them can fail. So what
becomes of a logging call is told by the record and by the level and the handlers of the channel: it
ends in the failure of the first handler that raises on the record, and it returns if there is none.
A call changes none of this, so it is the same at the next call.

`Settles` says how an action ends from every state with a property, and that it keeps the property.
It passes through sequences and handlers like a contract. Where an ordinary failure is reported and
another answer taken in its place, the answer can still fail: `LogChannel.excuse` tells what comes
of it.
-/

namespace AspectAgent

namespace Act

variable {σ α β : Type} {I : σ → Prop}

/-- From every state with a property the action ends in one way, and keeps the property. -/
def Settles (I : σ → Prop) (x : Act σ α) (o : Except Failure α) : Prop :=
  ∀ s, I s → ∃ s', x s = (Outcome.ofExcept o, s') ∧ I s'

theorem settles_give (a : α) : Settles I (give a) (.ok a) := fun s hs => ⟨s, rfl, hs⟩

theorem settles_pure (a : α) : Settles I (pure a : Act σ α) (.ok a) := settles_give a

theorem settles_ofExcept (e : Except Failure α) : Settles I (ofExcept e) e :=
  fun s hs => ⟨s, ofExcept_apply e s, hs⟩

theorem settles_change {g : σ → σ} (h : ∀ s, I s → I (g s)) : Settles I (change g) (.ok ()) :=
  fun s hs => ⟨g s, rfl, h s hs⟩

theorem settles_bind {x : Act σ α} {k : α → Act σ β} {a : α} {o : Except Failure β}
    (hx : Settles I x (.ok a)) (hk : Settles I (k a) o) : Settles I (x >>= k) o := by
  intro s hs
  obtain ⟨s', hxs, hs'⟩ := hx s hs
  obtain ⟨s'', hks, hs''⟩ := hk s' hs'
  exact ⟨s'', (bind_of_returned hxs).trans hks, hs''⟩

theorem settles_bind_of_error {x : Act σ α} {k : α → Act σ β} {f : Failure}
    (hx : Settles I x (.error f)) : Settles I (x >>= k) (.error f) := by
  intro s hs
  obtain ⟨s', hxs, hs'⟩ := hx s hs
  exact ⟨s', by rw [bind_apply, hxs]; rfl, hs'⟩

theorem settles_orElse_of_ok {x : Act σ α} {handler : Failure → Act σ α} {a : α}
    (hx : Settles I x (.ok a)) : Settles I (orElse x handler) (.ok a) := by
  intro s hs
  obtain ⟨s', hxs, hs'⟩ := hx s hs
  exact ⟨s', by rw [orElse, hxs]; rfl, hs'⟩

theorem settles_orElse_of_error {x : Act σ α} {handler : Failure → Act σ α} {f : Failure}
    {o : Except Failure α} (hx : Settles I x (.error f)) (hf : f.isOrdinary = true)
    (hh : Settles I (handler f) o) : Settles I (orElse x handler) o := by
  intro s hs
  obtain ⟨s', hxs, hs'⟩ := hx s hs
  obtain ⟨s'', hhs, hs''⟩ := hh s' hs'
  refine ⟨s'', ?_, hs''⟩
  rw [orElse, hxs]
  exact (if_pos hf).trans hhs

theorem settles_orElse_of_interrupt {x : Act σ α} {handler : Failure → Act σ α} {f : Failure}
    (hx : Settles I x (.error f)) (hf : f.isOrdinary = false) :
    Settles I (orElse x handler) (.error f) := by
  intro s hs
  obtain ⟨s', hxs, hs'⟩ := hx s hs
  refine ⟨s', ?_, hs'⟩
  rw [orElse, hxs]
  exact if_neg (by simp [hf])

theorem settles_forEach (xs : List α) {k : α → Act σ Unit}
    (hk : ∀ x ∈ xs, Settles I (k x) (.ok ())) : Settles I (forEach xs k) (.ok ()) := by
  induction xs with
  | nil => exact settles_give ()
  | cons x rest ih =>
    have hrest := ih fun y hy => hk y (List.mem_cons_of_mem x hy)
    exact settles_bind (hk x List.mem_cons_self) hrest

theorem settles_collect (xs : List α) {k : α → Act σ β} {a : α → β}
    (hk : ∀ x ∈ xs, Settles I (k x) (.ok (a x))) : Settles I (collect xs k) (.ok (xs.map a)) := by
  induction xs with
  | nil => exact settles_give []
  | cons x rest ih =>
    have hrest := ih fun y hy => hk y (List.mem_cons_of_mem x hy)
    exact settles_bind (hk x List.mem_cons_self) (settles_bind hrest (settles_pure _))

theorem settles_read {k : σ → Act σ α} {o : Except Failure α}
    (hk : ∀ s, I s → ∃ s', k s s = (Outcome.ofExcept o, s') ∧ I s') :
    Settles I (read >>= k) o := hk

end Act

open Act

/-- Nothing in the record can make a logging call fail. -/
structure LogRecord.IsPlain (r : LogRecord) : Prop where
  unreserved : LogChannel.reservedExtra r = none
  text : ∃ s, r.text = .ok s
  reported : ∃ f, r.reported = .ok f

/-- The failure that a handler raises on a record. -/
def LogHandler.failureOn (r : LogRecord) (h : LogHandler) : Option Failure :=
  if r.level < h.level then none
  else
    match h.sink with
    | .raising fails => fails r
    | _ => none

namespace LogChannel

/-- What becomes of the call for a plain record. -/
def verdict (c : LogChannel) (r : LogRecord) : Except Failure Unit :=
  if r.level ≤ 0 || r.level < c.threshold then .ok ()
  else
    match c.handlers.findSome? (LogHandler.failureOn r) with
    | some f => .error f
    | none => .ok ()

/-- No handler raises. -/
def NeverFails (c : LogChannel) : Prop :=
  ∀ h ∈ c.handlers, ∀ fails, h.sink = .raising fails → ∀ r, fails r = none

/-- What comes of an answer where an ordinary failure is reported and another answer is taken in its
place. -/
def excuse {α : Type} (c : LogChannel) (r : Failure → LogRecord) (a : α) :
    Except Failure α → Except Failure α
  | .ok b => .ok b
  | .error f => if f.isOrdinary then (c.verdict (r f)).map fun _ => a else .error f

section Excuse

variable {α : Type} {c : LogChannel} {r : Failure → LogRecord} {a b : α} {o : Except Failure α}

/-- An answer is the one that there was, or the one that was taken in its place. -/
theorem eq_of_excuse (h : c.excuse r a o = .ok b) : b = o.toOption.getD a := by
  cases o with
  | ok b' =>
    cases h
    rfl
  | error f =>
    rw [excuse] at h
    split at h
    · cases hverdict : c.verdict (r f) with
      | ok _ =>
        rw [hverdict] at h
        cases h
        rfl
      | error f' =>
        rw [hverdict] at h
        cases h
    · cases h

/-- There is an answer if what fails is ordinary and can be reported. -/
theorem excuse_isOk_iff : (∃ b, c.excuse r a o = .ok b) ↔
    ∀ f, o = .error f → f.isOrdinary = true ∧ c.verdict (r f) = .ok () := by
  cases o with
  | ok b => exact ⟨fun _ => nofun, fun _ => ⟨b, rfl⟩⟩
  | error f =>
    rw [excuse]
    constructor
    · rintro ⟨b, h⟩ _ ⟨⟩
      cases hf : f.isOrdinary with
      | false =>
        rw [hf, if_neg Bool.false_ne_true] at h
        cases h
      | true =>
        rw [hf, if_pos rfl] at h
        cases hverdict : c.verdict (r f) with
        | ok _ => exact ⟨rfl, rfl⟩
        | error f' =>
          rw [hverdict] at h
          cases h
    · intro hall
      obtain ⟨hf, hverdict⟩ := hall f rfl
      exact ⟨a, by rw [if_pos hf, hverdict]; rfl⟩

/-- What fails is not ordinary, or is the failure of a report. -/
theorem excuse_eq_error {f : Failure} (h : c.excuse r a o = .error f) :
    o = .error f ∧ f.isOrdinary = false ∨
      ∃ f', o = .error f' ∧ f'.isOrdinary = true ∧ c.verdict (r f') = .error f := by
  cases o with
  | ok b => cases h
  | error f' =>
    rw [excuse] at h
    cases hf' : f'.isOrdinary with
    | false =>
      rw [hf', if_neg Bool.false_ne_true] at h
      cases h
      exact .inl ⟨rfl, hf'⟩
    | true =>
      rw [hf', if_pos rfl] at h
      refine .inr ⟨f', rfl, hf', ?_⟩
      cases hverdict : c.verdict (r f') with
      | ok _ =>
        rw [hverdict] at h
        cases h
      | error f'' =>
        rw [hverdict] at h
        cases h
        rfl

end Excuse

variable {r : LogRecord} {c d : LogChannel} {f : Failure}

section Plain

variable (hr : r.IsPlain)
include hr

private theorem deliver_settles (h : LogHandler) : Settles (fun _ => True) (deliver r h)
    (match h.failureOn r with | some f => .error f | none => .ok ()) := by
  unfold deliver LogHandler.failureOn
  split
  · exact settles_give ()
  · cases h.sink with
    | archive i =>
      obtain ⟨message, hmessage⟩ := hr.text
      obtain ⟨report, hreport⟩ := hr.reported
      have hentry : ∃ e, ({} : EntryFormat).entry r = .ok e := by
        rw [EntryFormat.entry, hreport, hmessage]
        exact ⟨_, rfl⟩
      obtain ⟨e, he⟩ := hentry
      dsimp only
      rw [EntryFormat.deliver, he]
      exact settles_orElse_of_ok (settles_bind (settles_give e) (settles_change fun _ _ => trivial))
    | broken => exact settles_give ()
    | raising fails =>
      dsimp only
      cases fails r with
      | some f => exact settles_ofExcept (.error f)
      | none => exact settles_give ()

private theorem deliverAll_settles (handlers : List LogHandler) :
    Settles (fun _ => True) (forEach handlers (deliver r))
      (match handlers.findSome? (LogHandler.failureOn r) with
        | some f => .error f
        | none => .ok ()) := by
  induction handlers with
  | nil => exact settles_give ()
  | cons h rest ih =>
    have hh := deliver_settles hr h
    rw [List.findSome?_cons]
    cases hfailure : h.failureOn r with
    | some f =>
      rw [hfailure] at hh
      exact settles_bind_of_error hh
    | none =>
      rw [hfailure] at hh
      exact settles_bind hh ih

private theorem passOn_settles : Settles (fun _ => True) (passOn r) (.ok ()) := by
  refine settles_read fun c hc => ?_
  split
  · exact settles_pure () c hc
  · obtain ⟨message, hmessage⟩ := hr.text
    rw [hmessage]
    refine settles_bind (settles_give message) ?_ c hc
    exact settles_change fun _ _ => trivial

/-- A logging call for a plain record, as one function of the channel. -/
theorem log_of_plain (c : LogChannel) :
    log r c = (Outcome.ofExcept (c.verdict r), c.logged r) := by
  have hends : (log r c).1 = Outcome.ofExcept (c.verdict r) := by
    rw [log_apply, hr.unreserved, verdict]
    split
    · rfl
    · have hall := deliverAll_settles hr c.handlers
      cases hfailure : c.handlers.findSome? (LogHandler.failureOn r) with
      | some f =>
        rw [hfailure] at hall
        obtain ⟨c', hrun, -⟩ := settles_bind_of_error (k := fun _ => passOn r) hall c trivial
        exact congrArg Prod.fst hrun
      | none =>
        rw [hfailure] at hall
        obtain ⟨c', hrun, -⟩ := settles_bind (k := fun _ => passOn r) hall
          (passOn_settles hr) c trivial
        exact congrArg Prod.fst hrun
  exact Prod.ext hends rfl

end Plain

/-- What becomes of a call is told by the level and the handlers. -/
theorem verdict_congr (hhandlers : c.handlers = d.handlers) (hlevel : c.level = d.level)
    (r : LogRecord) : c.verdict r = d.verdict r := by
  rw [verdict, verdict, threshold, threshold, hhandlers, hlevel]

theorem verdict_of_neverFails (hc : c.NeverFails) (r : LogRecord) : c.verdict r = .ok () := by
  have hnone : c.handlers.findSome? (LogHandler.failureOn r) = none := by
    refine List.findSome?_eq_none_iff.mpr fun h hh => ?_
    unfold LogHandler.failureOn
    cases hsink : h.sink with
    | raising fails => simp only [hc h hh fails hsink r, ite_self]
    | archive i => exact ite_self none
    | broken => exact ite_self none
  rw [verdict, hnone]
  exact ite_self _

theorem FailsOrdinarily.verdict (hc : c.FailsOrdinarily) (h : c.verdict r = .error f) :
    f.isOrdinary = true := by
  unfold LogChannel.verdict at h
  split at h
  · cases h
  · split at h
    · rename_i f' hf'
      cases h
      obtain ⟨x, hx, hfailure⟩ := List.exists_of_findSome?_eq_some hf'
      unfold LogHandler.failureOn at hfailure
      split at hfailure
      · cases hfailure
      · split at hfailure
        · rename_i fails hsink
          exact hc x hx fails hsink r f hfailure
        · cases hfailure
    · cases h

theorem NeverFails.logged (hc : c.NeverFails) (r : LogRecord) : (c.logged r).NeverFails := by
  unfold NeverFails
  rw [handlers_logged]
  exact hc

end LogChannel

section Report

variable {σ : Type} [HasChannel σ] {r : LogRecord} {s : σ} {c : LogChannel}

/-- The report of a plain record changes the channel only. -/
theorem report_of_plain (hr : r.IsPlain) (s : σ) :
    report r s = (Outcome.ofExcept ((HasChannel.channel s).verdict r),
      HasChannel.setChannel ((HasChannel.channel s).logged r) s) := by
  unfold report within
  rw [LogChannel.log_of_plain hr]

/-- A plain record is reported where no handler raises. -/
theorem report_of_neverFails (hr : r.IsPlain) (hs : (HasChannel.channel s).NeverFails) :
    report r s = (.returned (), HasChannel.setChannel ((HasChannel.channel s).logged r) s) := by
  rw [report_of_plain hr, LogChannel.verdict_of_neverFails hs]
  rfl

/-- The states in which no handler raises. -/
def LogsSafely (s : σ) : Prop := (HasChannel.channel s).NeverFails

/-- The states whose channel has the level and the handlers of a given one. -/
structure LogsLike (c : LogChannel) (s : σ) : Prop where
  handlers : (HasChannel.channel s).handlers = c.handlers
  level : (HasChannel.channel s).level = c.level

theorem logsLike_channel (s : σ) : LogsLike (HasChannel.channel s) s := ⟨rfl, rfl⟩

theorem LogsLike.verdict (hs : LogsLike c s) (r : LogRecord) :
    (HasChannel.channel s).verdict r = c.verdict r :=
  LogChannel.verdict_congr hs.handlers hs.level r

theorem LogsLike.logsSafely (hs : LogsLike c s) (hc : c.NeverFails) : LogsSafely s := by
  intro h hh
  rw [hs.handlers] at hh
  exact hc h hh

/-- Logging keeps the level and the handlers. -/
theorem logsLike_logged (hset : ∀ c (s : σ), HasChannel.channel (HasChannel.setChannel c s) = c)
    (hs : LogsLike c s) (r : LogRecord) :
    LogsLike c (HasChannel.setChannel ((HasChannel.channel s).logged r) s) where
  handlers := by rw [hset, LogChannel.handlers_logged, hs.handlers]
  level := by rw [hset, LogChannel.level_logged, hs.level]

theorem report_settles (hset : ∀ c (s : σ), HasChannel.channel (HasChannel.setChannel c s) = c)
    (hr : r.IsPlain) (c : LogChannel) :
    Settles (LogsLike c) (report r : Act σ Unit) (c.verdict r) := by
  intro s hs
  refine ⟨HasChannel.setChannel ((HasChannel.channel s).logged r) s, ?_, logsLike_logged hset hs r⟩
  rw [report_of_plain hr, hs.verdict]

/-- An ordinary failure is reported, and the answer is another one unless the report fails. -/
theorem settles_excuse (hset : ∀ c (s : σ), HasChannel.channel (HasChannel.setChannel c s) = c)
    {α : Type} {x : Act σ α} {o : Except Failure α} {r : Failure → LogRecord}
    (hr : ∀ f, (r f).IsPlain) (a : α) (hx : Settles (LogsLike c) x o) :
    Settles (LogsLike c) (orElse x fun f => report (r f) >>= fun _ => pure a) (c.excuse r a o) := by
  cases o with
  | ok b => exact settles_orElse_of_ok hx
  | error f =>
    rw [LogChannel.excuse]
    cases hf : f.isOrdinary with
    | false =>
      rw [if_neg Bool.false_ne_true]
      exact settles_orElse_of_interrupt hx hf
    | true =>
      rw [if_pos rfl]
      refine settles_orElse_of_error hx hf ?_
      have hreport := report_settles hset (hr f) c
      cases hverdict : c.verdict (r f) with
      | ok _ =>
        rw [hverdict] at hreport
        exact settles_bind hreport (settles_pure a)
      | error f' =>
        rw [hverdict] at hreport
        exact settles_bind_of_error hreport

end Report

/-! ## The records of the agent -/

namespace LogRecord

variable {r : LogRecord}

/-- A record is plain if its extra fields hide nothing and its arguments fit its message. -/
theorem isPlain_of_extra {message : String} (hmessage : r.message = .text message)
    (hextra : ∀ k ∈ r.extra.keys, k ∉ standardFields ∧ k ≠ messageMaker)
    (hfill : r.arguments = [] ∨
      ∃ s, Template.fill message (.ofArguments r.arguments) = .ok s) : r.IsPlain := by
  have hidden : ∀ k, k ∈ standardFields ∨ k = messageMaker → r.extra.get? k = none := by
    intro k hk
    have hno : k ∉ r.extra.keys := by
      intro hmem
      obtain ⟨hfree, hmaker⟩ := hextra k hmem
      exact hk.elim hfree hmaker
    rw [← Table.has_iff_mem_keys, Bool.not_eq_true] at hno
    exact Table.get?_of_not_has hno
  have htemplate : (r.standard "msg" r.message).plain = message := by
    rw [standard, hidden "msg" (.inl (by decide)), hmessage]
    rfl
  constructor
  · refine List.find?_eq_none.mpr fun k hk => ?_
    simp [(hextra k hk).1]
  · have hargs : r.extra.get? "args" = none := hidden "args" (.inl (by decide))
    unfold text supply?
    rw [htemplate, hidden messageMaker (.inr rfl), hargs]
    by_cases hempty : r.arguments.isEmpty = true
    · exact ⟨message, by simp [hempty]⟩
    · obtain ⟨s, hs⟩ := hfill.resolve_left fun hnil => hempty (by rw [hnil]; rfl)
      exact ⟨s, by simpa [hempty] using hs⟩
  · exact ⟨r.report, by rw [reported, hidden "exc_info" (.inl (by decide))]⟩

variable (d : Descriptor) (target : String) (f : Failure)

theorem matchRecord_isPlain (message : String) :
    (Selection.matchRecord message d target f).IsPlain :=
  isPlain_of_extra rfl (by simp [Selection.matchRecord, Table.keys, standardFields, messageMaker])
    (.inl rfl)

theorem failedRecord_isPlain : (Agent.failedRecord d target f).IsPlain :=
  isPlain_of_extra rfl (by simp [Agent.failedRecord, Table.keys, standardFields, messageMaker])
    (.inl rfl)

theorem wovenRecord_isPlain (count : Nat) : (Loom.wovenRecord d target count).IsPlain :=
  isPlain_of_extra rfl (by simp [Loom.wovenRecord, Table.keys, standardFields, messageMaker])
    (.inr ⟨_, rfl⟩)

end LogRecord

theorem Agent.disabledRecord_isPlain (name : String) : (disabledRecord name).IsPlain :=
  LogRecord.isPlain_of_extra rfl (by simp [disabledRecord, Table.keys]) (.inr ⟨_, rfl⟩)

end AspectAgent
