import AspectAgent.Proofs.Captures

/-!
# What captures leave behind

When all handlers have been released, none is attached and records propagate again. The level of the
logger is then the one that it had before the capture that was released last. This is the level
before all captures if the handler that was attached first outlasts the others; otherwise it can be
one that a capture has set.
-/

namespace AspectAgent

namespace LogChannel

variable {c : LogChannel} {l : Int} {s : ChannelStep} {steps : List ChannelStep}

/-- Where no handler is attached, records propagate. -/
def Open (c : LogChannel) : Prop := c.handlers = [] → c.propagates = true

theorem Open.step (h : c.Open) (ho : c.InOrder) (s : ChannelStep) : (c.step s).Open := by
  cases s with
  | capture level sink =>
    intro hnone
    rw [LogChannel.step, ho.handlers_capture] at hnone
    exact absurd hnone (List.append_ne_nil_of_right_ne_nil _ (List.cons_ne_nil _ _))
  | release id =>
    intro hnone
    exact if_pos (List.isEmpty_iff.mpr hnone)
  | addArchive a => exact h
  | log r =>
    obtain ⟨archives, passedOn, hlog⟩ := sameSettings_log c r
    rw [LogChannel.step, hlog]
    exact h

theorem Open.after (h : c.Open) (ho : c.InOrder) (steps : List ChannelStep) :
    (c.after steps).Open := by
  induction steps generalizing c with
  | nil => exact h
  | cons s steps ih => exact ih (h.step ho s) (ho.step s)

/-- Without a capture an idle channel keeps its level. -/
theorem Idle.level_after (h : c.Idle) (hs : ∀ level sink, .capture level sink ∉ steps) :
    (c.after steps).level = c.level := by
  induction steps generalizing c with
  | nil => rfl
  | cons s steps ih =>
    have hrest : ∀ level sink, .capture level sink ∉ steps := fun level sink hmem =>
      hs level sink (List.mem_cons_of_mem s hmem)
    rw [after_cons]
    cases s with
    | capture level sink => exact absurd List.mem_cons_self (hs level sink)
    | release id =>
      have hidle : (c.release id).Idle :=
        ⟨by rw [handlers_release, h.handlers]; rfl, by rw [levelBefore_release, h.levelBefore]; rfl⟩
      have hlevel : (c.release id).level = c.level :=
        (InOrder.of_idle h).level_release_of_detached (by rw [h.handlers]; exact nofun)
      exact (ih hidle hrest).trans hlevel
    | addArchive a => exact ih (c := c.addArchive a) ⟨h.handlers, h.levelBefore⟩ hrest
    | log r =>
      obtain ⟨archives, passedOn, hlog⟩ := sameSettings_log c r
      rw [LogChannel.step, hlog]
      exact ih ⟨h.handlers, h.levelBefore⟩ hrest

/-- The capture that is released last, when no other handler is attached, decides on the level. -/
theorem InOrder.level_of_last (h : c.InOrder) (level : Int) (sink : LogSink)
    {between rest : List ChannelStep}
    (hlast : ((c.capture level sink).after between).handlers.map LogHandler.id = [c.made])
    (hrest : ∀ level sink, .capture level sink ∉ rest) :
    ((((c.capture level sink).after between).release c.made).after rest).level = c.level := by
  have hcaptured := h.capture level sink
  have hbefore := hcaptured.after between
  obtain ⟨x, hone, hid⟩ := List.map_eq_singleton_iff.mp hlast
  have hx : x ∈ ((c.capture level sink).after between).handlers :=
    hone ▸ List.mem_singleton_self x
  obtain ⟨saved, hsaved⟩ := hbefore.exists_saved hx
  rw [hid] at hsaved
  -- what has been kept for this handler is the level before its capture
  have hkept : (c.made, saved) ∈ (c.capture level sink).levelBefore :=
    hcaptured.saved_of_after (by rw [made_capture]; exact Nat.lt_succ_self _) hsaved
  have hown : (c.made, c.level) ∈ (c.capture level sink).levelBefore := by
    rw [levelBefore_capture]
    exact List.mem_append_right _ List.mem_cons_self
  have hlevel : saved = c.level := Option.some.inj
    ((hcaptured.lookup_of_mem hkept).symm.trans (hcaptured.lookup_of_mem hown))
  have hnone : (((c.capture level sink).after between).release c.made).handlers = [] := by
    rw [handlers_release, hone]
    simp [hid]
  have hidle := (hbefore.release c.made).idle hnone
  rw [hidle.level_after hrest, hbefore.level_release hsaved, hlevel]

/-- The level before the first of the open captures; the level of the logger if there is none. -/
def levelBeforeAll (c : LogChannel) : Int :=
  match c.levelBefore with
  | [] => c.level
  | saved :: _ => saved.2

theorem Idle.levelBeforeAll (h : c.Idle) : c.levelBeforeAll = c.level := by
  rw [LogChannel.levelBeforeAll, h.levelBefore]

/-- Only a release of the first of several handlers changes the level before all captures. -/
theorem InOrder.levelBeforeAll_step (h : c.InOrder) (s : ChannelStep)
    (hfirst : ∀ id, s = .release id → ∀ x others, c.handlers = x :: others → others ≠ [] →
      id ≠ x.id) : (c.step s).levelBeforeAll = c.levelBeforeAll := by
  cases s with
  | capture level sink =>
    unfold levelBeforeAll
    rw [LogChannel.step, levelBefore_capture]
    cases c.levelBefore <;> rfl
  | addArchive a => rfl
  | log r =>
    obtain ⟨archives, passedOn, hlog⟩ := sameSettings_log c r
    rw [LogChannel.step, hlog]
    rfl
  | release id =>
    cases hhandlers : c.handlers with
    | nil =>
      have hidle := h.idle hhandlers
      have hreleased : (c.release id).Idle :=
        (h.release id).idle (by rw [handlers_release, hhandlers]; rfl)
      rw [LogChannel.step, hreleased.levelBeforeAll, hidle.levelBeforeAll]
      refine h.level_release_of_detached fun x hx => ?_
      rw [hhandlers] at hx
      cases hx
    | cons x others =>
      have hids := h.ids
      rw [hhandlers] at hids
      obtain ⟨saved, kept, hkept, hsaved, hothers⟩ := List.map_eq_cons_iff.mp hids
      have hbefore : c.levelBeforeAll = saved.2 := by rw [levelBeforeAll, hkept]
      rw [LogChannel.step, hbefore]
      by_cases hid : id = x.id
      · subst hid
        -- the first handler is also the only one
        have hnone : others = [] := by
          cases others with
          | nil => rfl
          | cons y others => exact absurd rfl (hfirst x.id rfl x _ hhandlers (List.cons_ne_nil _ _))
        have hreleased : (c.release x.id).Idle :=
          (h.release x.id).idle (by rw [handlers_release, hhandlers, hnone]; simp)
        have hmem : (x.id, saved.2) ∈ c.levelBefore := by
          rw [hkept, ← hsaved]
          exact List.mem_cons_self
        rw [hreleased.levelBeforeAll, h.level_release hmem]
      · have hstays : (c.release id).levelBefore = saved :: kept.filter (·.1 != id) := by
          rw [levelBefore_release, hkept, List.filter_cons_of_pos]
          simpa [hsaved] using Ne.symm hid
        rw [levelBeforeAll, hstays]

theorem InOrder.levelBeforeAll_after (h : c.InOrder) (steps : List ChannelStep)
    (hfirst : ∀ before id rest, steps = before ++ .release id :: rest →
      ∀ x others, (c.after before).handlers = x :: others → others ≠ [] → id ≠ x.id) :
    (c.after steps).levelBeforeAll = c.levelBeforeAll := by
  induction steps generalizing c with
  | nil => rfl
  | cons s steps ih =>
    have hstep := h.levelBeforeAll_step s fun id hid => hfirst [] id steps (by rw [hid]; rfl)
    refine (ih (h.step s) fun before id rest hsplit => ?_).trans hstep
    exact hfirst (s :: before) id rest (by rw [hsplit]; rfl)

end LogChannel

/-- **Restoration.** On an idle channel that propagates, if every handler that is captured is
released at some time after its capture, then at the end none is attached and records propagate, in
whatever order the releases come and however often. The logger then has the level that it had before
the capture that was released last: the one whose handler was the only one left. It has the level
that it had before all captures if, while others are attached, the first handler of all is never
released. -/
theorem capture_restoration {c : LogChannel} {steps : List ChannelStep} (hc : c.Idle)
    (hopen : c.propagates = true)
    (hreleased : ∀ before level sink rest, steps = before ++ .capture level sink :: rest →
      .release (c.after before).made ∈ rest) :
    (c.after steps).handlers = [] ∧ (c.after steps).propagates = true ∧
    (∀ before level sink between rest,
      steps = before ++ .capture level sink :: (between ++ .release (c.after before).made :: rest) →
      (((c.after before).capture level sink).after between).handlers.map LogHandler.id =
        [(c.after before).made] →
      (∀ level sink, .capture level sink ∉ rest) →
        (c.after steps).level = (c.after before).level) ∧
    ((∀ before id rest, steps = before ++ .release id :: rest →
      ∀ x others, (c.after before).handlers = x :: others → others ≠ [] → id ≠ x.id) →
        (c.after steps).level = c.level) := by
  have horder : c.InOrder := .of_idle hc
  have hnone : (c.after steps).handlers = [] := by
    refine List.eq_nil_iff_forall_not_mem.mpr fun x hx => ?_
    obtain ⟨before, rest, hsplit, hid, hattached⟩ := (hc.mem_handlers_after steps x).mp hx
    exact hattached (hid ▸ hreleased before x.level x.sink rest hsplit)
  have hopens : (c.after steps).Open := LogChannel.Open.after (fun _ => hopen) horder steps
  refine ⟨hnone, hopens hnone, ?_, fun hfirst => ?_⟩
  · rintro before level sink between rest rfl hlast hrest
    rw [LogChannel.after_append, LogChannel.after_cons, LogChannel.after_append]
    exact (horder.after before).level_of_last level sink hlast hrest
  · have hend := (horder.after steps).idle hnone
    rw [← hend.levelBeforeAll, horder.levelBeforeAll_after steps hfirst, hc.levelBeforeAll]

theorem capture_restoration_of_nested :
    let c : LogChannel := { level := 40, archives := [.unbounded] }
    let steps : List ChannelStep := [.capture 30 (.archive 0), .capture 10 .broken, .release 1,
      .release 1, .release 0]
    c.Idle ∧ c.propagates = true ∧
      (∀ before level sink rest, steps = before ++ .capture level sink :: rest →
        .release (c.after before).made ∈ rest) ∧
      (c.after steps).handlers = [] ∧ (c.after steps).propagates = true ∧
      (c.after steps).level = 40 := by
  intro c steps
  have hc : c.Idle := ⟨rfl, rfl⟩
  have hreleased : ∀ before level sink rest, steps = before ++ .capture level sink :: rest →
      .release (c.after before).made ∈ rest := by
    intro before level sink rest hsplit
    simp only [steps, List.cons_eq_append_iff, List.cons.injEq, reduceCtorEq, false_and, and_false,
      List.nil_eq, List.append_eq_nil_iff, exists_false, or_false] at hsplit
    rcases hsplit with ⟨rfl, -, rfl⟩ | ⟨_, rfl, rfl, -, rfl⟩
    · simp [c]
    · simp [c, LogChannel.step]
  obtain ⟨hnone, hopen, hlast, -⟩ := capture_restoration hc rfl hreleased
  refine ⟨hc, rfl, hreleased, hnone, hopen, ?_⟩
  exact hlast [] 30 (.archive 0) [.capture 10 .broken, .release 1, .release 1] [] rfl rfl
    fun _ _ => List.not_mem_nil

/-- Two captures that are released in the order in which they were made: the level of the logger is
that of the first capture, not the one before it. -/
theorem level_left_of_overlapping :
    let c : LogChannel := {}
    let steps : List ChannelStep := [.capture 30 .broken, .capture 30 .broken, .release 0,
      .release 1]
    c.Idle ∧ c.propagates = true ∧
      (∀ before level sink rest, steps = before ++ .capture level sink :: rest →
        .release (c.after before).made ∈ rest) ∧
      (c.after steps).handlers = [] ∧ c.level = 0 ∧ (c.after steps).level = 30 := by
  intro c steps
  refine ⟨⟨rfl, rfl⟩, rfl, fun before level sink rest hsplit => ?_, rfl, rfl, rfl⟩
  simp only [steps, List.cons_eq_append_iff, List.cons.injEq, reduceCtorEq, false_and, and_false,
    List.nil_eq, List.append_eq_nil_iff, exists_false, or_false] at hsplit
  rcases hsplit with ⟨rfl, -, rfl⟩ | ⟨_, rfl, rfl, -, rfl⟩
  · simp [c]
  · simp [c, LogChannel.step]

end AspectAgent
