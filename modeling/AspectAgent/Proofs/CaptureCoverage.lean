import AspectAgent.Proofs.Captures

/-!
# Coverage of captures

A handler gets the records that reach its level if the logger lets them through: if the logger has a
level of its own that is no higher than the handler's. A capture sees to that for its own handler
and takes it away from none. A release gives back the level that the logger had before the capture.
This is the right level for the handlers that were attached before, but nothing makes it the right
one for those that were attached later. Exactly there coverage is lost.
-/

namespace AspectAgent

open Act

/-- Captures are above level zero, and write to a store. -/
def ChannelStep.IsProper : ChannelStep → Prop
  | .capture level sink => 0 < level ∧ ∀ f, sink ≠ .raising f
  | _ => True

/-- Does the handler write a record to an archive? -/
def LogHandler.stores (h : LogHandler) (i : Nat) (r : LogRecord) : Bool :=
  match h.sink with
  | .archive j => j = i && h.level ≤ r.level
  | _ => false

namespace LogChannel

variable {c : LogChannel} {level : Int} {sink : LogSink} {id : Nat} {r : LogRecord} {e : LogEntry}

/-- While a handler is attached the logger has a level of its own, which is at most the handler's.
-/
def Covers (c : LogChannel) : Prop := ∀ h ∈ c.handlers, c.level ≠ 0 ∧ c.level ≤ h.level

/-- The level that a release gives back is none, or too high for a handler that was attached later.
-/
def Uncovers (c : LogChannel) (id : Nat) : Prop :=
  ∃ h ∈ c.handlers, id < h.id ∧ ((c.release id).level = 0 ∨ h.level < (c.release id).level)

/-! ## What handlers store -/

/-- Every handler is above level zero, and writes to a store. -/
def Proper (c : LogChannel) : Prop := ∀ h ∈ c.handlers, 0 < h.level ∧ ∀ f, h.sink ≠ .raising f

theorem Proper.step (h : c.Proper) (ho : c.InOrder) {s : ChannelStep} (hs : s.IsProper) :
    (c.step s).Proper := by
  cases s with
  | capture level sink =>
    intro x hx
    rw [LogChannel.step, ho.handlers_capture] at hx
    rcases List.mem_append.mp hx with hx | hx
    · exact h x hx
    · rw [List.mem_singleton.mp hx]
      exact hs
  | release id => exact fun x hx => h x (List.mem_filter.mp hx).1
  | addArchive a => exact h
  | log r =>
    intro x hx
    rw [LogChannel.step, handlers_logged] at hx
    exact h x hx

theorem Proper.after (h : c.Proper) (ho : c.InOrder) {steps : List ChannelStep}
    (hs : ∀ s ∈ steps, s.IsProper) : (c.after steps).Proper := by
  induction steps generalizing c with
  | nil => exact h
  | cons s steps ih =>
    have hstep := h.step ho (hs s List.mem_cons_self)
    exact ih hstep (ho.step s) fun s' hs' => hs s' (List.mem_cons_of_mem s hs')

private theorem archive_store (i j : Nat) (hi : i < c.archives.length) :
    (store j e c).archive i = if j = i then (c.archive i).write e else c.archive i := by
  unfold store archive
  rw [List.getD_eq_getElem?_getD, List.getD_eq_getElem?_getD, List.getElem?_modify,
    List.getElem?_eq_getElem hi]
  split <;> rfl

/-- What the handlers do with a record: each that the record reaches writes the entry once. -/
private theorem forEach_deliver (he : ({} : EntryFormat).entry r = .ok e) (hs : List LogHandler)
    (hsinks : ∀ h ∈ hs, ∀ f, h.sink ≠ .raising f) (c : LogChannel) :
    ∃ c', forEach hs (deliver r) c = (.returned (), c') ∧
      c'.archives.length = c.archives.length ∧ ∀ i < c.archives.length,
        c'.archive i = (c.archive i).writeAll (List.replicate (hs.countP (·.stores i r)) e) := by
  induction hs generalizing c with
  | nil => exact ⟨c, rfl, rfl, fun i hi => rfl⟩
  | cons h hs ih =>
    have hrest : ∀ x ∈ hs, ∀ f, x.sink ≠ .raising f := fun x hx =>
      hsinks x (List.mem_cons_of_mem h hx)
    -- either the handler does nothing, or it writes the entry to its archive
    have hdeliver : (deliver r h c = (.returned (), c) ∧ ∀ i, h.stores i r = false) ∨
        ∃ j, deliver r h c = (.returned (), store j e c) ∧
          ∀ i, h.stores i r = decide (j = i) := by
      unfold deliver LogHandler.stores
      by_cases hlevel : r.level < h.level
      · refine .inl ⟨by rw [if_pos hlevel]; rfl, fun i => ?_⟩
        have hnot : ¬ h.level ≤ r.level := by omega
        cases h.sink <;> simp [hnot]
      · have hle : h.level ≤ r.level := by omega
        rw [if_neg hlevel]
        cases hsink : h.sink with
        | archive j =>
          refine .inr ⟨j, ?_, fun i => by simp [hle]⟩
          show EntryFormat.deliver {} _ _ r c = _
          rw [EntryFormat.deliver, he]
          rfl
        | broken => exact .inl ⟨rfl, fun i => rfl⟩
        | raising f => exact absurd hsink (hsinks h List.mem_cons_self f)
    rw [forEach_cons]
    rcases hdeliver with ⟨hdeliver, hno⟩ | ⟨j, hdeliver, hstores⟩
    · obtain ⟨c', hrun, hlength, harchive⟩ := ih hrest c
      refine ⟨c', (bind_of_returned hdeliver).trans hrun, hlength, fun i hi => ?_⟩
      rw [harchive i hi, List.countP_cons_of_neg (by simp [hno i])]
    · obtain ⟨c', hrun, hlength, harchive⟩ := ih hrest (store j e c)
      have hlength' : (store j e c).archives.length = c.archives.length :=
        List.length_modify _ _ _
      refine ⟨c', (bind_of_returned hdeliver).trans hrun, hlength.trans hlength', fun i hi => ?_⟩
      rw [harchive i (by rwa [hlength']), archive_store i j hi]
      by_cases hj : j = i
      · rw [if_pos hj, List.countP_cons_of_pos (by simp [hstores, hj]), List.replicate_succ]
        rfl
      · rw [if_neg hj, List.countP_cons_of_neg (by simp [hstores, hj])]

private theorem archives_passOn (r : LogRecord) (c : LogChannel) :
    (passOn r c).2.archives = c.archives := by
  unfold passOn
  rw [bind_apply, read_apply]
  dsimp only
  split
  · rfl
  · rw [bind_apply]
    cases r.text <;> rfl

/-- In a channel that covers its handlers each of them stores what reaches its level. -/
theorem Covers.archive_logged (h : c.Covers) (hc : c.Proper) (hr : r.IsPlain) :
    ∃ e, ({} : EntryFormat).entry r = .ok e ∧ ∀ i < c.archives.length, (c.logged r).archive i =
      (c.archive i).writeAll (List.replicate (c.handlers.countP (·.stores i r)) e) := by
  obtain ⟨message, hmessage⟩ := hr.text
  obtain ⟨report, hreport⟩ := hr.reported
  have hentry : ∃ e, ({} : EntryFormat).entry r = .ok e := by
    rw [EntryFormat.entry, hreport, hmessage]
    exact ⟨_, rfl⟩
  obtain ⟨e, he⟩ := hentry
  refine ⟨e, he, fun i hi => ?_⟩
  rw [logged, log_apply, hr.unreserved]
  split
  · -- a record that is dropped reaches no handler
    rename_i hdropped
    have hnone : c.handlers.countP (·.stores i r) = 0 := by
      refine List.countP_eq_zero.mpr fun x hx => ?_
      obtain ⟨hset, hle⟩ := h x hx
      obtain ⟨hpositive, -⟩ := hc x hx
      have habove : ¬ x.level ≤ r.level := by
        simp only [Bool.or_eq_true, decide_eq_true_eq, threshold, if_neg hset] at hdropped
        omega
      unfold LogHandler.stores
      split <;> simp [habove]
    rw [hnone]
    rfl
  · obtain ⟨c', hrun, -, harchive⟩ := forEach_deliver he c.handlers (fun x hx => (hc x hx).2) c
    have hpassed : (forEach c.handlers (deliver r) >>= fun _ => passOn r : Act LogChannel Unit) c =
        passOn r c' := bind_of_returned hrun
    rw [← harchive i hi]
    show (Prod.snd ((forEach c.handlers (deliver r) >>= fun _ => passOn r) c)).archive i = _
    rw [hpassed, archive, archives_passOn]
    rfl

/-! ## What keeps and what ends coverage -/

/-- The handlers are covered, and so they were, as far as they were attached, before each capture
that has not been released. -/
structure Covered (c : LogChannel) : Prop where
  inOrder : c.InOrder
  covers : c.Covers
  older : ∀ saved ∈ c.levelBefore, ∀ h ∈ c.handlers, h.id < saved.1 →
    saved.2 ≠ 0 ∧ saved.2 ≤ h.level

namespace Covered

theorem of_idle (h : c.Idle) : c.Covered where
  inOrder := .of_idle h
  covers := by rw [Covers, h.handlers]; exact nofun
  older := by rw [h.levelBefore]; exact nofun

theorem covers_capture (h : c.Covered) (hlevel : 0 < level) : (c.capture level sink).Covers := by
  intro x hx
  rw [h.inOrder.handlers_capture] at hx
  rw [level_capture]
  rcases List.mem_append.mp hx with hx | hx
  · obtain ⟨hset, hle⟩ := h.covers x hx
    split <;> simp_all
    omega
  · rw [List.mem_singleton.mp hx, makeHandler]
    split <;> simp_all
    omega

/-- A release takes coverage away exactly if it gives back a level that is not the right one for a
handler that was attached later. -/
theorem covers_release (h : c.Covered) (id : Nat) :
    (c.release id).Covers ↔ ¬ c.Uncovers id := by
  constructor
  · rintro hcovers ⟨x, hx, hlater, hlevel⟩
    have hstays : x ∈ (c.release id).handlers :=
      List.mem_filter.mpr ⟨hx, by simpa using (Nat.ne_of_lt hlater).symm⟩
    obtain ⟨hset, hle⟩ := hcovers x hstays
    rcases hlevel with hzero | hlt
    · exact hset hzero
    · omega
  · intro hkeeps x hstays
    obtain ⟨hx, htest⟩ := List.mem_filter.mp hstays
    have hne : x.id ≠ id := by simpa using htest
    rcases Nat.lt_or_gt_of_ne hne with holder | hlater
    · by_cases hattached : ∃ y ∈ c.handlers, y.id = id
      · obtain ⟨y, hy, rfl⟩ := hattached
        obtain ⟨saved, hsaved⟩ := h.inOrder.exists_saved hy
        rw [h.inOrder.level_release hsaved]
        exact h.older _ hsaved x hx holder
      · have hdetached : ∀ y ∈ c.handlers, y.id ≠ id := fun y hy heq => hattached ⟨y, hy, heq⟩
        rw [h.inOrder.level_release_of_detached hdetached]
        exact h.covers x hx
    · have hright : ¬ ((c.release id).level = 0 ∨ x.level < (c.release id).level) :=
        fun hwrong => hkeeps ⟨x, hx, hlater, hwrong⟩
      rw [not_or] at hright
      exact ⟨hright.1, Int.not_lt.mp hright.2⟩

/-- A step after which the handlers are covered, also leaves the right levels behind. -/
theorem step (h : c.Covered) {s : ChannelStep} (hcovers : (c.step s).Covers) :
    (c.step s).Covered where
  inOrder := h.inOrder.step s
  covers := hcovers
  older := by
    cases s with
    | capture level sink =>
      intro saved hsaved x hx hlt
      rw [LogChannel.step, levelBefore_capture] at hsaved
      rw [LogChannel.step, h.inOrder.handlers_capture] at hx
      rcases List.mem_append.mp hsaved with hsaved | hsaved
      · rcases List.mem_append.mp hx with hx | hx
        · exact h.older saved hsaved x hx hlt
        · obtain ⟨y, hy, hid⟩ := h.inOrder.attached_of_mem hsaved
          have hknown := h.inOrder.made y hy
          rw [List.mem_singleton.mp hx] at hlt
          exact absurd (hid ▸ hknown) (Nat.lt_asymm hlt)
      · rw [List.mem_singleton.mp hsaved] at hlt ⊢
        rcases List.mem_append.mp hx with hx | hx
        · exact h.covers x hx
        · rw [List.mem_singleton.mp hx] at hlt
          exact absurd hlt (Nat.lt_irrefl c.made)
    | release id =>
      intro saved hsaved x hx
      exact h.older saved (List.mem_filter.mp hsaved).1 x (List.mem_filter.mp hx).1
    | addArchive a => exact h.older
    | log r =>
      obtain ⟨archives, passedOn, hlog⟩ := sameSettings_log c r
      rw [LogChannel.step, hlog]
      exact h.older

/-- Only a release can take coverage away. -/
theorem covers_step (h : c.Covered) {s : ChannelStep} (hs : s.IsProper) :
    (c.step s).Covers ↔ ∀ id, s = .release id → ¬ c.Uncovers id := by
  cases s with
  | capture level sink => exact iff_of_true (h.covers_capture hs.1) nofun
  | release id =>
    refine (h.covers_release id).trans ⟨fun hkeeps id' heq => ?_, fun hkeeps => hkeeps id rfl⟩
    cases heq
    exact hkeeps
  | addArchive a => exact iff_of_true h.covers nofun
  | log r =>
    obtain ⟨archives, passedOn, hlog⟩ := sameSettings_log c r
    refine iff_of_true ?_ nofun
    rw [LogChannel.step, hlog]
    exact h.covers

/-- Coverage lasts as long as no release takes it away. -/
theorem after (h : c.Covered) {steps : List ChannelStep} (hs : ∀ s ∈ steps, s.IsProper)
    (hkeeps : ∀ before id rest, steps = before ++ .release id :: rest →
      ¬ (c.after before).Uncovers id) : (c.after steps).Covered := by
  induction steps generalizing c with
  | nil => exact h
  | cons s steps ih =>
    have hcovers : (c.step s).Covers := (h.covers_step (hs s List.mem_cons_self)).mpr
      fun id hid => hkeeps [] id steps (by rw [hid]; rfl)
    refine ih (h.step hcovers) (fun s' hs' => hs s' (List.mem_cons_of_mem s hs')) ?_
    intro before id rest hsplit
    exact hkeeps (s :: before) id rest (by rw [hsplit]; rfl)

/-- If the handlers have been covered all the time, the levels are the right ones. -/
theorem of_covers (h : c.Covered) {steps : List ChannelStep}
    (hcovers : ∀ before rest, steps = before ++ rest → (c.after before).Covers) :
    (c.after steps).Covered := by
  induction steps generalizing c with
  | nil => exact h
  | cons s steps ih =>
    refine ih (h.step (hcovers [s] steps rfl)) fun before rest hsplit => ?_
    exact hcovers (s :: before) rest (by rw [hsplit]; rfl)

end Covered

end LogChannel

/-- **Coverage of captures.** Whatever has been captured, released and logged on a channel that was
idle, the handlers that are attached are those that have been captured and not been released since,
and as long as there is one nothing propagates. In every state on the way the logger has a level of
its own that is at most that of each handler, if and only if no release has given back a level that
is none, or too high for a handler that was attached later and stays. This is so in particular if
the last handler to be attached is always the first to be released. In such a state a record is
stored by each handler whose level it reaches, once by each. -/
theorem capture_coverage {c : LogChannel} {steps : List ChannelStep} (hc : c.Idle)
    (hs : ∀ s ∈ steps, s.IsProper) :
    (∀ h, h ∈ (c.after steps).handlers ↔
      ∃ before rest, steps = before ++ .capture h.level h.sink :: rest ∧
        h.id = (c.after before).made ∧ .release h.id ∉ rest) ∧
    ((c.after steps).handlers ≠ [] → (c.after steps).propagates = false) ∧
    ((∀ before rest, steps = before ++ rest → (c.after before).Covers) ↔
      ∀ before id rest, steps = before ++ .release id :: rest → ¬ (c.after before).Uncovers id) ∧
    ((c.after steps).Covers → ∀ r : LogRecord, r.IsPlain →
      ∃ e, ({} : EntryFormat).entry r = .ok e ∧ ∀ i < (c.after steps).archives.length,
        ((c.after steps).logged r).archive i = ((c.after steps).archive i).writeAll
          (List.replicate ((c.after steps).handlers.countP (·.stores i r)) e)) := by
  have hcovered : c.Covered := .of_idle hc
  have hproper : c.Proper := by
    rw [LogChannel.Proper, hc.handlers]
    exact nofun
  refine ⟨hc.mem_handlers_after steps, (hcovered.inOrder.after steps).silent, ⟨?_, ?_⟩, ?_⟩
  · rintro hcovers before id rest rfl
    have hbefore : (c.after before).Covered := hcovered.of_covers fun first others hsplit =>
      hcovers first (others ++ .release id :: rest) (by rw [hsplit, List.append_assoc])
    refine (hbefore.covers_release id).mp ?_
    have hreleased := hcovers (before ++ [.release id]) rest (by rw [List.append_assoc]; rfl)
    rwa [LogChannel.after_append] at hreleased
  · rintro hkeeps before rest rfl
    have hbefore : (c.after before).Covered :=
      hcovered.after (fun s hmem => hs s (List.mem_append_left rest hmem))
        fun first id others hsplit =>
          hkeeps first id (others ++ rest) (by rw [hsplit, List.append_assoc]; rfl)
    exact hbefore.covers
  · intro hcovers r hr
    exact hcovers.archive_logged (hproper.after hcovered.inOrder hs) hr

/-- A record of the agent's logger that says a word. -/
def LogRecord.word (level : Int) : LogRecord where
  logger := agentLogger
  level := level
  message := .text "sampled"

theorem LogRecord.word_isPlain (level : Int) : (word level).IsPlain :=
  isPlain_of_extra rfl nofun (.inl rfl)

theorem capture_coverage_of_nested :
    let c : LogChannel := { archives := [.unbounded, .unbounded] }
    let steps : List ChannelStep := [.capture 30 (.archive 0), .capture 20 (.archive 1), .release 1]
    c.Idle ∧ (∀ s ∈ steps, s.IsProper) ∧ (c.after steps).handlers ≠ [] ∧
      (c.after steps).propagates = false ∧ (c.after steps).Covers ∧
      ∃ e, ({} : EntryFormat).entry (.word 30) = .ok e ∧
        (((c.after steps).logged (.word 30)).archive 0).items = [e] := by
  intro c steps
  have hc : c.Idle := ⟨rfl, rfl⟩
  have hs : ∀ s ∈ steps, s.IsProper := by
    intro s hs
    simp only [steps, List.mem_cons, List.not_mem_nil, or_false] at hs
    rcases hs with rfl | rfl | rfl
    · exact ⟨by decide, nofun⟩
    · exact ⟨by decide, nofun⟩
    · exact trivial
  obtain ⟨-, hsilent, -, hstored⟩ := capture_coverage hc hs
  have hattached : (c.after steps).handlers ≠ [] := List.cons_ne_nil _ _
  have hcovers : (c.after steps).Covers := by
    unfold LogChannel.Covers
    decide
  obtain ⟨e, he, harchive⟩ := hstored hcovers (.word 30) (LogRecord.word_isPlain 30)
  refine ⟨hc, hs, hattached, hsilent hattached, hcovers, e, he, ?_⟩
  rw [harchive 0 (by decide)]
  rfl

/-- The first of two captures is released first: the second handler stays attached, but the logger
has no level of its own any longer, and a record that reaches the level of the handler is lost. -/
theorem coverage_lost_of_overlapping :
    let c : LogChannel := { archives := [.unbounded, .unbounded] }
    let steps : List ChannelStep := [.capture 30 (.archive 0), .capture 20 (.archive 1), .release 0]
    c.Idle ∧ (∃ h, (c.after steps).handlers = [h] ∧ h.level = 20 ∧ h.stores 1 (.word 20) = true) ∧
      (c.after steps).level = 0 ∧ ¬ (c.after steps).Covers ∧
      (((c.after steps).logged (.word 20)).archive 1).items.length = 0 := by
  intro c steps
  refine ⟨⟨rfl, rfl⟩, ⟨_, rfl, rfl, rfl⟩, rfl, ?_, rfl⟩
  unfold LogChannel.Covers
  decide

end AspectAgent
