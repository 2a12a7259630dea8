import AspectAgent.Guard
import AspectAgent.Proofs.Contract

/-!
# Reports on the diagnostics channel

A logging call never changes which handlers are attached, and always ends. The record of a fault is
one that every storing handler can turn into an entry, so that its report fails only where a handler
itself raises. If handlers raise nothing but ordinary failures, a guard can therefore record a fault
without letting anything out.
-/

namespace AspectAgent

open Act Contract

namespace LogChannel

/-- The handlers that raise do so by ordinary failures only. -/
def FailsOrdinarily (c : LogChannel) : Prop :=
  ∀ h ∈ c.handlers, ∀ fails, h.sink = .raising fails → ∀ r f, fails r = some f →
    f.isOrdinary = true

/-- Nothing has changed but what has been stored and passed on. -/
def sameSettings : Contract LogChannel where
  allows _ c c' := ∃ archives passedOn, c' = { c with archives := archives, passedOn := passedOn }
  refl _ c := ⟨c.archives, c.passedOn, rfl⟩
  trans := by
    rintro _ c _ _ ⟨archives, passedOn, rfl⟩ ⟨archives', passedOn', rfl⟩
    exact ⟨archives', passedOn', rfl⟩

/-- A contract under which entries may be stored and records passed on. -/
structure AllowsLogging (C : Contract LogChannel) : Prop where
  store : ∀ i e c, C.allows true c (store i e c)
  passOn : ∀ r c, C.allows true c { c with passedOn := c.passedOn ++ [r] }

section Contract

variable {C : Contract LogChannel} (hC : AllowsLogging C)
include hC

private theorem deliver_meets (r : LogRecord) (h : LogHandler) : C.Meets (deliver r h) := by
  unfold deliver
  split
  · exact meets_give ()
  · split
    · refine meets_orElse (meets_bind (meets_ofExcept _) fun e => ?_) fun _ => meets_give ()
      exact meets_change fun c => hC.store _ e c
    · exact meets_give ()
    · split
      · exact meets_raise _
      · exact meets_give ()

private theorem passOn_meets (r : LogRecord) : C.Meets (passOn r) := by
  refine meets_read fun c => ?_
  split
  · exact meets_pure () c
  · exact meets_bind (meets_ofExcept _) (fun _ => meets_change fun c => hC.passOn r c) c

/-- A logging call does no more than store entries and pass the record on. -/
theorem log_meets (r : LogRecord) : C.Meets (log r) := by
  have delivered : ∀ handlers, C.Meets (do forEach handlers (deliver r); passOn r) :=
    fun handlers =>
    meets_bind (meets_forEach handlers fun h _ => deliver_meets hC r h) fun _ => passOn_meets hC r
  refine meets_read fun c => ?_
  split
  · exact meets_pure () c
  · split
    · exact meets_bind (meets_raise _) (fun _ => delivered _) c
    · exact delivered c.handlers c

end Contract

/-- A logging call as one function of the channel. -/
theorem log_apply (r : LogRecord) (c : LogChannel) :
    log r c =
      if r.level ≤ 0 || r.level < c.threshold then (.returned (), c)
      else
        match reservedExtra r with
        | some name => (.raised (.reservedField name), c)
        | none => (do forEach c.handlers (deliver r); passOn r : Act LogChannel Unit) c := by
  simp only [log, bind_apply, read_apply]
  split
  · rfl
  · cases reservedExtra r with
    | none => rfl
    | some name => rfl

private theorem deliver_ends (r : LogRecord) (h : LogHandler) :
    (deliver r h).EndsIn fun _ => True := by
  unfold deliver
  split
  · exact endsIn_give ()
  · split
    · exact endsIn_orElse
        (endsIn_bind (endsIn_ofExcept fun _ _ => trivial) fun _ => endsIn_change _)
        (fun _ _ _ => endsIn_give ()) fun _ _ _ => trivial
    · exact endsIn_give ()
    · split
      · exact endsIn_raise trivial
      · exact endsIn_give ()

private theorem passOn_ends (r : LogRecord) : (passOn r).EndsIn fun _ => True := by
  refine endsIn_read fun c => ?_
  split
  · exact endsIn_pure ()
  · exact endsIn_bind (endsIn_ofExcept fun _ _ => trivial) fun _ => endsIn_change _

/-- Every logging call comes to an end. -/
theorem log_ends (r : LogRecord) : (log r).EndsIn fun _ => True := by
  refine endsIn_read fun c => ?_
  split
  · exact endsIn_pure ()
  · split
    · exact endsIn_bind (endsIn_raise trivial) fun _ =>
        endsIn_bind (endsIn_forEach _ fun h _ => deliver_ends r h) fun _ => passOn_ends r
    · exact endsIn_bind (endsIn_forEach _ fun h _ => deliver_ends r h) fun _ => passOn_ends r

/-- The channel after a logging call. -/
def logged (c : LogChannel) (r : LogRecord) : LogChannel := (log r c).2

/-- A logging call leaves the settings as they are. -/
theorem sameSettings_log (c : LogChannel) (r : LogRecord) :
    ∃ archives passedOn,
      c.logged r = { c with archives := archives, passedOn := passedOn } := by
  have hsame : AllowsLogging sameSettings :=
    ⟨fun i e c => ⟨c.archives.modify i (·.write e), c.passedOn, rfl⟩,
      fun r c => ⟨c.archives, c.passedOn ++ [r], rfl⟩⟩
  exact log_meets hsame r c

@[simp] theorem handlers_logged (c : LogChannel) (r : LogRecord) :
    (c.logged r).handlers = c.handlers := by
  obtain ⟨archives, passedOn, hlog⟩ := sameSettings_log c r
  rw [hlog]

@[simp] theorem level_logged (c : LogChannel) (r : LogRecord) : (c.logged r).level = c.level := by
  obtain ⟨archives, passedOn, hlog⟩ := sameSettings_log c r
  rw [hlog]

theorem FailsOrdinarily.of_handlers_eq {c d : LogChannel} (h : c.FailsOrdinarily)
    (he : d.handlers = c.handlers) : d.FailsOrdinarily := by
  intro x hx
  rw [he] at hx
  exact h x hx

end LogChannel

theorem report_ends {σ : Type} [HasChannel σ] (r : LogRecord) :
    (report r : Act σ Unit).EndsIn fun _ => True := endsIn_within (LogChannel.log_ends r)

/-- Of the diagnostics channel nothing has changed but what has been stored and passed on. -/
def keepsSettings (σ : Type) [HasChannel σ] : Contract σ where
  allows b s s' := LogChannel.sameSettings.allows b (HasChannel.channel s) (HasChannel.channel s')
  refl b s := LogChannel.sameSettings.refl b (HasChannel.channel s)
  trans h h' := LogChannel.sameSettings.trans h h'

section FaultRecord

variable (site : Option String) (cause : Failure)

theorem faultRecord_text : (faultRecord site cause).text =
    .ok "Advice raised; outcome of the host method is unchanged" := by
  simp [faultRecord, LogRecord.text, LogRecord.standard, LogRecord.supply?, LogRecord.messageMaker,
    Table.get?, Value.plain]

theorem faultRecord_reservedExtra : LogChannel.reservedExtra (faultRecord site cause) = none := by
  simp [faultRecord, LogChannel.reservedExtra, Table.keys, LogRecord.standardFields]

theorem faultRecord_entry (f : EntryFormat) (h : f.context = none) :
    ∃ e, f.entry (faultRecord site cause) = .ok e := by
  have hreport : (faultRecord site cause).reported = .ok (.of cause) := by
    simp [faultRecord, LogRecord.reported, Table.get?]
  rw [EntryFormat.entry, h, hreport, faultRecord_text]
  exact ⟨_, rfl⟩

end FaultRecord

namespace LogChannel

variable {site : Option String} {cause : Failure}

private theorem deliver_faultRecord_endsIn {h : LogHandler}
    (hh : ∀ fails, h.sink = .raising fails → ∀ r f, fails r = some f → f.isOrdinary = true) :
    (deliver (faultRecord site cause) h).EndsIn fun f => f.isOrdinary = true := by
  unfold deliver
  split
  · exact endsIn_give ()
  · split
    · obtain ⟨e, he⟩ := faultRecord_entry site cause {} rfl
      rw [EntryFormat.deliver, he]
      exact fun c => .inl ⟨(), rfl⟩
    · exact endsIn_give ()
    · rename_i fails hsink
      split
      · rename_i f hf
        exact endsIn_raise (hh fails hsink _ f hf)
      · exact endsIn_give ()

private theorem passOn_faultRecord_endsIn :
    (passOn (faultRecord site cause)).EndsIn fun f => f.isOrdinary = true := by
  refine endsIn_read fun c => ?_
  split
  · exact endsIn_pure ()
  · rw [faultRecord_text]
    exact endsIn_bind (endsIn_give _) fun _ => endsIn_change _

/-- The report of a fault fails only in an ordinary way. -/
theorem log_faultRecord (site : Option String) (cause : Failure) {c : LogChannel}
    (hc : c.FailsOrdinarily) :
    (∃ a, (log (faultRecord site cause) c).1 = .returned a) ∨
      ∃ f, (log (faultRecord site cause) c).1 = .raised f ∧ f.isOrdinary = true := by
  have delivered : Act.EndsIn (do
      forEach c.handlers (deliver (faultRecord site cause))
      passOn (faultRecord site cause)) fun f => f.isOrdinary = true :=
    endsIn_bind (endsIn_forEach _ fun h hh => deliver_faultRecord_endsIn (hc h hh)) fun _ =>
      passOn_faultRecord_endsIn
  rw [log_apply, faultRecord_reservedExtra]
  split
  · exact .inl ⟨(), rfl⟩
  · exact delivered c

end LogChannel

end AspectAgent
