import AspectAgent.Proofs.ReliableLogging

/-!
# Captures and releases

What captures and releases leave behind, in whatever order they come and whatever is logged between
them. The handlers that are attached are those of the captures that have not been released, in the
order of capture. For each of them the channel has kept the level that the logger had before, and as
long as there is one, nothing propagates. Handlers are numbered in the order of capture, so that a
later capture is one of a higher number.
-/

namespace AspectAgent

open Act Contract

/-- Something that is done to a diagnostics channel. -/
inductive ChannelStep where
  | capture (level : Int) (sink : LogSink)
  | release (id : Nat)
  | addArchive (a : Archive LogEntry)
  | log (r : LogRecord)

namespace LogChannel

def step (c : LogChannel) : ChannelStep → LogChannel
  | .capture level sink => c.capture level sink
  | .release id => c.release id
  | .addArchive a => c.addArchive a
  | .log r => c.logged r

/-- The channel after some steps, in order. -/
def after (c : LogChannel) (steps : List ChannelStep) : LogChannel := steps.foldl step c

/-- No handler is attached, and no capture is open. -/
structure Idle (c : LogChannel) : Prop where
  handlers : c.handlers = []
  levelBefore : c.levelBefore = []

variable {c : LogChannel} {level : Int} {sink : LogSink} {id : Nat}

@[simp] theorem after_nil (c : LogChannel) : c.after [] = c := rfl

@[simp] theorem after_cons (c : LogChannel) (s : ChannelStep) (steps : List ChannelStep) :
    c.after (s :: steps) = (c.step s).after steps := rfl

@[simp] theorem after_append (c : LogChannel) (before rest : List ChannelStep) :
    c.after (before ++ rest) = (c.after before).after rest := List.foldl_append

/-! ## One step -/

@[simp] theorem levelBefore_capture (c : LogChannel) (level : Int) (sink : LogSink) :
    (c.capture level sink).levelBefore = c.levelBefore ++ [(c.made, c.level)] := by
  unfold capture attach
  split <;> rfl

@[simp] theorem made_capture (c : LogChannel) (level : Int) (sink : LogSink) :
    (c.capture level sink).made = c.made + 1 := by
  unfold capture attach
  split <;> rfl

@[simp] theorem level_capture (c : LogChannel) (level : Int) (sink : LogSink) :
    (c.capture level sink).level = if c.level = 0 || level < c.level then level else c.level := rfl

@[simp] theorem handlers_release (c : LogChannel) (id : Nat) :
    (c.release id).handlers = c.handlers.filter (·.id != id) := rfl

@[simp] theorem levelBefore_release (c : LogChannel) (id : Nat) :
    (c.release id).levelBefore = c.levelBefore.filter (·.1 != id) := rfl

/-! ## Order among the captures -/

/-- The open captures are those of the handlers that are attached, in the order of capture; while
there are any, nothing propagates. -/
structure InOrder (c : LogChannel) : Prop where
  ids : c.levelBefore.map Prod.fst = c.handlers.map LogHandler.id
  ascending : (c.handlers.map LogHandler.id).Pairwise (· < ·)
  made : ∀ h ∈ c.handlers, h.id < c.made
  silent : c.handlers ≠ [] → c.propagates = false

namespace InOrder

theorem of_idle (h : c.Idle) : c.InOrder where
  ids := by rw [h.levelBefore, h.handlers]; rfl
  ascending := by rw [h.handlers]; exact .nil
  made := by rw [h.handlers]; exact nofun
  silent hne := absurd h.handlers hne

theorem idle (h : c.InOrder) (hnone : c.handlers = []) : c.Idle where
  handlers := hnone
  levelBefore := List.map_eq_nil_iff.mp (by rw [h.ids, hnone]; rfl)

theorem not_attached (h : c.InOrder) : c.isAttached c.made = false := by
  refine List.any_eq_false.mpr fun x hx => ?_
  have hne : x.id ≠ c.made := Nat.ne_of_lt (h.made x hx)
  simpa using hne

/-- A capture attaches its handler behind the others. -/
theorem handlers_capture (h : c.InOrder) (level : Int) (sink : LogSink) :
    (c.capture level sink).handlers = c.handlers ++ [c.makeHandler level sink] := by
  unfold LogChannel.capture attach
  exact congrArg LogChannel.handlers (if_neg (Bool.eq_false_iff.mp h.not_attached))

theorem capture (h : c.InOrder) (level : Int) (sink : LogSink) :
    (c.capture level sink).InOrder where
  ids := by
    rw [h.handlers_capture, levelBefore_capture, List.map_append, List.map_append, h.ids]
    rfl
  ascending := by
    rw [h.handlers_capture, List.map_append]
    refine List.pairwise_append.mpr ⟨h.ascending, List.pairwise_singleton _ _, ?_⟩
    intro a ha b hb
    obtain ⟨x, hx, rfl⟩ := List.mem_map.mp ha
    rw [List.mem_singleton.mp hb]
    exact h.made x hx
  made := by
    intro x hx
    rw [h.handlers_capture] at hx
    rw [made_capture]
    rcases List.mem_append.mp hx with hx | hx
    · exact Nat.lt_succ_of_lt (h.made x hx)
    · rw [List.mem_singleton.mp hx]
      exact Nat.lt_succ_self c.made
  silent _ := rfl

theorem release (h : c.InOrder) (id : Nat) : (c.release id).InOrder where
  ids := by
    rw [handlers_release, levelBefore_release]
    have hleft : (c.levelBefore.filter (·.1 != id)).map Prod.fst =
        (c.levelBefore.map Prod.fst).filter (· != id) := by
      rw [List.filter_map]
      rfl
    have hright : (c.handlers.filter (·.id != id)).map LogHandler.id =
        (c.handlers.map LogHandler.id).filter (· != id) := by
      rw [List.filter_map]
      rfl
    rw [hleft, hright, h.ids]
  ascending := h.ascending.sublist (List.filter_sublist.map _)
  made x hx := h.made x (List.mem_filter.mp hx |>.1)
  silent hne := by
    have hsome : (c.handlers.filter (·.id != id)).isEmpty = false := by
      rwa [List.isEmpty_eq_false_iff]
    have hbefore : c.handlers ≠ [] := by
      intro hnil
      rw [handlers_release, hnil] at hne
      exact hne rfl
    show (if (c.handlers.filter (·.id != id)).isEmpty then true else c.propagates) = false
    rw [hsome]
    exact h.silent hbefore

theorem step (h : c.InOrder) (s : ChannelStep) : (c.step s).InOrder := by
  cases s with
  | capture level sink => exact h.capture level sink
  | release id => exact h.release id
  | addArchive a => exact ⟨h.ids, h.ascending, h.made, h.silent⟩
  | log r =>
    obtain ⟨archives, passedOn, hlog⟩ := sameSettings_log c r
    rw [LogChannel.step, hlog]
    exact ⟨h.ids, h.ascending, h.made, h.silent⟩

/-- The captures are in order after any steps. -/
theorem after (h : c.InOrder) (steps : List ChannelStep) : (c.after steps).InOrder := by
  induction steps generalizing c with
  | nil => exact h
  | cons s steps ih => exact ih (h.step s)

variable {saved : Int}

theorem lookup_of_mem (h : c.InOrder) (hmem : (id, saved) ∈ c.levelBefore) :
    c.levelBefore.lookup id = some saved := by
  have hnodup : (c.levelBefore.map Prod.fst).Nodup := by
    rw [h.ids]
    exact h.ascending.imp Nat.ne_of_lt
  obtain ⟨before, rest, hsplit⟩ := List.append_of_mem hmem
  rw [hsplit, List.map_append, List.map_cons] at hnodup
  refine List.lookup_eq_some_iff.mpr ⟨before, rest, hsplit, fun e he => ?_⟩
  have hne : e.1 ≠ id := (List.nodup_append.mp hnodup).2.2 _ (List.mem_map_of_mem he) _
    List.mem_cons_self
  simpa using hne.symm

/-- The level that is given back when a capture is released is the one before it. -/
theorem level_release (h : c.InOrder) (hmem : (id, saved) ∈ c.levelBefore) :
    (c.release id).level = saved := by
  show (c.levelBefore.lookup id).getD c.level = saved
  rw [h.lookup_of_mem hmem]
  rfl

/-- For every handler that is attached there is a level to be given back. -/
theorem exists_saved (h : c.InOrder) {x : LogHandler} (hx : x ∈ c.handlers) :
    ∃ saved, (x.id, saved) ∈ c.levelBefore := by
  have hid : x.id ∈ c.levelBefore.map Prod.fst := h.ids ▸ List.mem_map_of_mem hx
  obtain ⟨⟨id, saved⟩, hmem, rfl⟩ := List.mem_map.mp hid
  exact ⟨saved, hmem⟩

theorem attached_of_mem (h : c.InOrder) {entry : Nat × Int} (hmem : entry ∈ c.levelBefore) :
    ∃ x ∈ c.handlers, x.id = entry.1 :=
  List.mem_map.mp (h.ids ▸ List.mem_map_of_mem hmem : entry.1 ∈ c.handlers.map LogHandler.id)

/-- A release of a handler that is not attached gives no level back. -/
theorem level_release_of_detached (h : c.InOrder) (hid : ∀ x ∈ c.handlers, x.id ≠ id) :
    (c.release id).level = c.level := by
  have hnone : c.levelBefore.lookup id = none := by
    refine List.lookup_eq_none_iff.mpr fun e he => ?_
    obtain ⟨x, hx, hxe⟩ := h.attached_of_mem he
    have hne : id ≠ e.1 := fun heq => hid x hx (hxe.trans heq.symm)
    simpa using hne
  show (c.levelBefore.lookup id).getD c.level = c.level
  rw [hnone]
  rfl

/-- The level that has been kept for a handler stays the same as long as the handler is attached. -/
theorem saved_of_after (h : c.InOrder) {steps : List ChannelStep} (hid : id < c.made)
    (hmem : (id, saved) ∈ (c.after steps).levelBefore) : (id, saved) ∈ c.levelBefore := by
  induction steps generalizing c with
  | nil => exact hmem
  | cons s steps ih =>
    cases s with
    | capture level sink =>
      have hstep := ih (h.capture level sink) (by rw [made_capture]; omega) hmem
      rw [levelBefore_capture] at hstep
      rcases List.mem_append.mp hstep with hold | hnew
      · exact hold
      · cases List.mem_singleton.mp hnew
        exact absurd hid (Nat.lt_irrefl _)
    | release id' => exact (List.mem_filter.mp (ih (h.release id') hid hmem)).1
    | addArchive a => exact ih (c := c.addArchive a) (h.step (.addArchive a)) hid hmem
    | log r =>
      obtain ⟨archives, passedOn, hlog⟩ := sameSettings_log c r
      have hstep := ih (h.step (.log r)) (by rwa [LogChannel.step, hlog]) hmem
      rwa [LogChannel.step, hlog] at hstep

/-- The first step is the capture itself, or it stands before the capture. -/
private theorem captured_cons (s : ChannelStep) (steps : List ChannelStep) (x : LogHandler) :
    (∃ before rest, s :: steps = before ++ .capture x.level x.sink :: rest ∧
        x.id = (c.after before).made ∧ .release x.id ∉ rest) ↔
      s = .capture x.level x.sink ∧ x.id = c.made ∧ .release x.id ∉ steps ∨
        ∃ before rest, steps = before ++ .capture x.level x.sink :: rest ∧
          x.id = ((c.step s).after before).made ∧ .release x.id ∉ rest := by
  constructor
  · rintro ⟨before, rest, heq, hid, hrest⟩
    cases before with
    | nil =>
      cases heq
      exact .inl ⟨rfl, hid, hrest⟩
    | cons s' before =>
      cases heq
      exact .inr ⟨before, rest, rfl, hid, hrest⟩
  · rintro (⟨rfl, hid, hrest⟩ | ⟨before, rest, rfl, hid, hrest⟩)
    · exact ⟨[], steps, rfl, hid, hrest⟩
    · exact ⟨s :: before, rest, rfl, hid, hrest⟩

private theorem eq_makeHandler (level : Int) (sink : LogSink) (x : LogHandler) :
    x = c.makeHandler level sink ↔
      ChannelStep.capture level sink = .capture x.level x.sink ∧ x.id = c.made := by
  obtain ⟨i, l, k⟩ := x
  simp only [makeHandler, LogHandler.mk.injEq, ChannelStep.capture.injEq]
  constructor
  · rintro ⟨rfl, rfl, rfl⟩
    exact ⟨⟨rfl, rfl⟩, rfl⟩
  · rintro ⟨⟨rfl, rfl⟩, rfl⟩
    exact ⟨rfl, rfl, rfl⟩

/-- The handlers that are attached: those that were and have not been released since, and those that
captures have attached since and that have not been released after that. -/
theorem mem_handlers_after (h : c.InOrder) (steps : List ChannelStep) (x : LogHandler) :
    x ∈ (c.after steps).handlers ↔
      x ∈ c.handlers ∧ .release x.id ∉ steps ∨
        ∃ before rest, steps = before ++ .capture x.level x.sink :: rest ∧
          x.id = (c.after before).made ∧ .release x.id ∉ rest := by
  induction steps generalizing c with
  | nil => simp
  | cons s steps ih =>
    rw [after_cons, ih (h.step s), captured_cons, ← or_assoc]
    refine or_congr_left ?_
    cases s with
    | capture level sink =>
      rw [LogChannel.step, h.handlers_capture, List.mem_append, List.mem_singleton, eq_makeHandler]
      simp only [List.mem_cons, reduceCtorEq, false_or, or_and_right, and_assoc]
    | release id =>
      simp only [LogChannel.step, handlers_release, List.mem_filter, bne_iff_ne, List.mem_cons,
        ChannelStep.release.injEq, reduceCtorEq, false_and, or_false, not_or, and_assoc, ne_eq]
    | addArchive a => simp [LogChannel.step, addArchive]
    | log r => simp [LogChannel.step]

end InOrder

/-- The handlers that are attached to a channel that was idle are those that have been captured and
not been released since. -/
theorem Idle.mem_handlers_after (h : c.Idle) (steps : List ChannelStep) (x : LogHandler) :
    x ∈ (c.after steps).handlers ↔
      ∃ before rest, steps = before ++ .capture x.level x.sink :: rest ∧
        x.id = (c.after before).made ∧ .release x.id ∉ rest := by
  rw [(InOrder.of_idle h).mem_handlers_after, h.handlers]
  simp

end LogChannel

end AspectAgent
