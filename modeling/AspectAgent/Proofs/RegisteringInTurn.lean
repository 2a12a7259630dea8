import AspectAgent.Proofs.InstrumentLifecycle
import AspectAgent.Proofs.SlottedMeter
import Mathlib.Data.List.Forall2

/-!
# Registering in turn

Instruments are made and registered with one registry, one after the other, and nothing is taken
back when one of them is refused. So a registration in turn that raises leaves those instruments
registered that came before the one at which it raised. Where every callback can be made, every name
is free and nothing raises in diagnostics, all of them are registered.
-/

namespace AspectAgent

open Act

namespace Metering

variable {K : Type} {m : Metering K} {registry : Nat} {made : List (Instrument × K)}

/-- Some instruments that a registry makes, one after the other. -/
def addedAll (m : Metering K) (registry : Nat) (made : List (Instrument × K)) : Metering K :=
  made.foldl (fun m x => m.added registry x.1 x.2) m

@[simp] theorem addedAll_nil (m : Metering K) (registry : Nat) : m.addedAll registry [] = m := rfl

@[simp] theorem addedAll_cons (m : Metering K) (registry : Nat) (x : Instrument × K)
    (made : List (Instrument × K)) :
    m.addedAll registry (x :: made) = (m.added registry x.1 x.2).addedAll registry made := rfl

theorem length_registries_added (m : Metering K) (registry : Nat) (i : Instrument) (k : K) :
    (m.added registry i k).registries.length = m.registries.length := List.length_modify ..

theorem registered_addedAll (m : Metering K) (registry : Nat) (made : List (Instrument × K)) :
    (m.addedAll registry made).registered =
      m.registered ++ made.map fun x => ⟨x.1, x.2, some registry, true⟩ := by
  induction made generalizing m with
  | nil => exact (List.append_nil _).symm
  | cons x made ih =>
    rw [addedAll_cons, ih]
    show (m.registered ++ [_]) ++ _ = _
    rw [List.append_assoc]
    rfl

theorem activeOnes_addedAll (m : Metering K) (registry : Nat) (made : List (Instrument × K)) :
    (m.addedAll registry made).activeOnes =
      m.activeOnes ++ made.map fun x => ⟨x.1, x.2, some registry, true⟩ := by
  rw [activeOnes, registered_addedAll, List.filter_append]
  refine congrArg (m.activeOnes ++ ·) (List.filter_eq_self.mpr fun r hr => ?_)
  obtain ⟨x, -, rfl⟩ := List.mem_map.mp hr
  rfl

/-- The meter and its registries are as they were just if nothing has been added. -/
theorem addedAll_eq_self_iff : m.addedAll registry made = m ↔ made = [] := by
  refine ⟨fun h => ?_, fun h => by rw [h, addedAll_nil]⟩
  have hlength := congrArg (fun m => m.registered.length) h
  simp only [registered_addedAll, List.length_append, List.length_map] at hlength
  exact List.eq_nil_of_length_eq_zero (by omega)

/-- The names of what has been added are in use, next to those that were. -/
theorem isSome_find?_addedAll (hlt : registry < m.registries.length) (g : Nat) (name : String) :
    ((m.addedAll registry made).find? g name).isSome ↔
      (m.find? g name).isSome ∨ registry = g ∧ ∃ x ∈ made, x.1.name = name := by
  induction made generalizing m with
  | nil => simp
  | cons x made ih =>
    rw [addedAll_cons, ih (length_registries_added m registry x.1 x.2 ▸ hlt), find?_added hlt]
    by_cases hx : registry = g ∧ x.1.name = name
    · simp [hx]
    · rw [if_neg hx]
      simp only [List.mem_cons, exists_eq_or_imp]
      tauto

/-- Instruments of different names, all of them free, can be added in step. -/
theorem InStep.addedAll (h : m.InStep) (hlt : registry < m.registries.length)
    (hfree : ∀ x ∈ made, m.find? registry x.1.name = none)
    (hnodup : (made.map fun x => x.1.name).Nodup) : (m.addedAll registry made).InStep := by
  induction made generalizing m with
  | nil => exact h
  | cons x made ih =>
    obtain ⟨hx, hnodup⟩ := List.nodup_cons.mp hnodup
    refine ih (h.added hlt (hfree x List.mem_cons_self) x.2)
      (length_registries_added m registry x.1 x.2 ▸ hlt) (fun y hy => ?_) hnodup
    have hne : x.1.name ≠ y.1.name := fun hname => hx (List.mem_map.mpr ⟨y, hy, hname.symm⟩)
    rw [find?_added hlt, if_neg fun hname => hne hname.2]
    exact hfree y (List.mem_cons_of_mem x hy)

end Metering

namespace Bench

variable {C R α β : Type} {b : Bench C R}

/-- An action that looks at the sources and at nothing else, and changes nothing. -/
def Consults (b : Bench C R) (x : Act (Bench C R) α) (e : Except Failure α) : Prop :=
  ∀ b' : Bench C R, b'.sources = b.sources → x b' = (Outcome.ofExcept e, b')

/-! ## Registering in turn -/

theorem bind_pure_apply {σ : Type} (x : Act σ α) (f : α → β) (s : σ) :
    (x >>= fun a => pure (f a)) s = ((x s).1.map f, (x s).2) := by
  rw [bind_apply]
  rcases x s with ⟨_ | _ | _, _⟩ <;> rfl

section InTurn

variable {registry : Nat} {instrument : α → Instrument}
  {make : α → Act (Bench C R) (Callback C)} {callback : α → Except Failure (Callback C)}

/-- How a registration in turn ends that has made a number of instruments. It stops where a callback
cannot be made, where the name is taken if it can be, or where the meter refuses an instrument of a
free name; and behind an instrument whose record cannot be written. -/
inductive Ending (b : Bench C R) (registry : Nat) (instrument : α → Instrument)
    (callback : α → Except Failure (Callback C)) (xs : List α) : Nat → Outcome (List Nat) → Prop
  | all : Ending b registry instrument callback xs xs.length
      (.returned (List.range' b.metering.registered.length xs.length))
  | unmade {n : Nat} {x : α} {f : Failure} (hx : xs[n]? = some x) (hf : callback x = .error f) :
      Ending b registry instrument callback xs n (.raised f)
  | taken {n : Nat} {x : α} {k : Callback C} (hx : xs[n]? = some x) (hk : callback x = .ok k)
      (htaken : (b.metering.find? registry (instrument x).name).isSome) :
      Ending b registry instrument callback xs n
        (.raised (.duplicateInstrument (instrument x).name))
  | refused {n : Nat} {x : α} {k : Callback C} {f : Failure} (hx : xs[n]? = some x)
      (hk : callback x = .ok k) (hfree : b.metering.find? registry (instrument x).name = none)
      (hf : b.metering.meter.refusal? (instrument x) = some f) :
      Ending b registry instrument callback xs n (.raised f)
  | unlogged {n : Nat} {x : α} {f : Failure} (hx : xs[n]? = some x)
      (hf : b.channel.verdict (Metering.registeredRecord (instrument x).name) = .error f) :
      Ending b registry instrument callback xs (n + 1) (.raised f)

theorem Ending.ne_unfinished {xs : List α} {n : Nat} {o : Outcome (List Nat)}
    (h : Ending b registry instrument callback xs n o) : o ≠ .unfinished := by
  cases h <;> exact nofun

/-- What a registration in turn comes to: the instruments it has made have been added, each for an
element and with the callback made for it, under names that were free. -/
structure InTurn (b : Bench C R) (registry : Nat) (instrument : α → Instrument)
    (callback : α → Except Failure (Callback C)) (xs : List α)
    (run : Outcome (List Nat) × Bench C R) (made : List (Instrument × Callback C))
    (channel : LogChannel) : Prop where
  state : run.2 = { b with metering := b.metering.addedAll registry made, channel := channel }
  settings : LogChannel.sameSettings.allows true b.channel channel
  elements : List.Forall₂ (fun x y => y.1 = instrument x ∧ callback x = .ok y.2)
    (xs.take made.length) made
  free : ∀ y ∈ made, b.metering.find? registry y.1.name = none
  ending : Ending b registry instrument callback xs made.length run.1

/-- The bench behind a registration under a free name. -/
def withAdded (b : Bench C R) (registry : Nat) (i : Instrument) (k : Callback C) : Bench C R :=
  { b with
    metering := b.metering.added registry i k
    channel := b.channel.logged (Metering.registeredRecord i.name) }

/-- What ends the registration of the elements behind the first one ends the whole registration. -/
theorem Ending.cons {x : α} {rest : List α} {k : Callback C} {n : Nat} {o : Outcome (List Nat)}
    (h : Ending (b.withAdded registry (instrument x) k) registry instrument callback rest n o)
    (hlt : registry < b.metering.registries.length)
    (hx : (instrument x).name ∉ rest.map fun x => (instrument x).name) :
    Ending b registry instrument callback (x :: rest) (n + 1)
      (o.map (b.metering.registered.length :: ·)) := by
  have hname {y : α} {m : Nat} (hy : rest[m]? = some y) :
      (instrument x).name ≠ (instrument y).name :=
    fun hname => hx (List.mem_map.mpr ⟨y, List.mem_of_getElem? hy, hname.symm⟩)
  have hfind {y : α} {m : Nat} (hy : rest[m]? = some y) :
      (b.withAdded registry (instrument x) k).metering.find? registry (instrument y).name =
        b.metering.find? registry (instrument y).name := by
    rw [withAdded, Metering.find?_added hlt, if_neg fun h => hname hy h.2]
  cases h with
  | all =>
    have hlength : (b.withAdded registry (instrument x) k).metering.registered.length =
        b.metering.registered.length + 1 := List.length_append
    rw [hlength]
    exact .all
  | unmade hy hf => exact .unmade hy hf
  | taken hy hk htaken => exact .taken hy hk (hfind hy ▸ htaken)
  | refused hy hk hfree hf =>
    exact .refused hy hk ((hfind hy).symm.trans hfree)
      ((Meter.refusal?_provideWith (hname hy) _).symm.trans hf)
  | unlogged hy hf =>
    rw [withAdded, LogChannel.verdict_congr (LogChannel.handlers_logged _ _)
      (LogChannel.level_logged _ _)] at hf
    exact .unlogged hy hf

theorem inTurn_collect {xs : List α} (hmake : ∀ x ∈ xs, b.Consults (make x) (callback x))
    (hnodup : (xs.map fun x => (instrument x).name).Nodup)
    (hlt : registry < b.metering.registries.length) :
    ∃ made channel, InTurn b registry instrument callback xs
      (Act.collect xs (fun x => do
        let k ← make x
        Metering.registering registry (instrument x) (some k)) b) made channel := by
  induction xs generalizing b with
  | nil => exact ⟨[], b.channel, rfl, LogChannel.sameSettings.refl true _, .nil, nofun, .all⟩
  | cons x rest ih =>
    obtain ⟨hx, hnodup⟩ := List.nodup_cons.mp hnodup
    have hmakex := hmake x List.mem_cons_self b rfl
    -- an element that is refused ends the registration, and nothing has been made for it
    have hrefused (f : Failure) (hrun : (make x >>= fun k =>
          Metering.registering registry (instrument x) (some k)) b = (.raised f, b))
        (hending : Ending b registry instrument callback (x :: rest) 0 (.raised f)) :
        ∃ made channel, InTurn b registry instrument callback (x :: rest)
          (Act.collect (x :: rest) (fun x => do
            let k ← make x
            Metering.registering registry (instrument x) (some k)) b) made channel := by
      rw [collect_cons, bind_apply, hrun]
      exact ⟨[], b.channel, rfl, LogChannel.sameSettings.refl true _, .nil, nofun, hending⟩
    cases hk : callback x with
    | error f =>
      rw [hk] at hmakex
      refine hrefused f ?_ (.unmade rfl hk)
      rw [bind_apply, hmakex]
      rfl
    | ok k =>
      rw [hk] at hmakex
      cases hfind : b.metering.find? registry (instrument x).name with
      | some number =>
        refine hrefused _ ?_ (.taken rfl hk (by rw [hfind]; rfl))
        exact (bind_of_returned hmakex).trans (Metering.registering_of_taken hfind)
      | none =>
        cases hrefusal : b.metering.meter.refusal? (instrument x) with
        | some f =>
          exact hrefused f ((bind_of_returned hmakex).trans
            (Metering.registering_of_refused hfind hrefusal k)) (.refused rfl hk hfind hrefusal)
        | none =>
          have hone :
              (make x >>= fun k => Metering.registering registry (instrument x) (some k)) b =
              ((Outcome.ofExcept
                  (b.channel.verdict (Metering.registeredRecord (instrument x).name))).map
                fun _ => b.metering.registered.length, b.withAdded registry (instrument x) k) :=
            (bind_of_returned hmakex).trans (Metering.registering_eq hfind hrefusal k)
          have hsettings : LogChannel.sameSettings.allows true b.channel
              (b.withAdded registry (instrument x) k).channel := LogChannel.sameSettings_log _ _
          cases hverdict : b.channel.verdict (Metering.registeredRecord (instrument x).name) with
          | error f =>
            rw [hverdict] at hone
            rw [collect_cons, bind_apply, hone]
            exact ⟨[(instrument x, k)], _, rfl, hsettings, .cons ⟨rfl, hk⟩ .nil,
              fun y hy => List.mem_singleton.mp hy ▸ hfind, .unlogged rfl hverdict⟩
          | ok a =>
            rw [hverdict] at hone
            obtain ⟨made, channel, h⟩ := ih (b := b.withAdded registry (instrument x) k)
              (fun y hy => hmake y (List.mem_cons_of_mem x hy)) hnodup
              (Nat.lt_of_lt_of_eq hlt (Metering.length_registries_added _ _ _ _).symm)
            rw [collect_cons, bind_of_returned hone, bind_pure_apply]
            refine ⟨(instrument x, k) :: made, channel, h.state,
              LogChannel.sameSettings.trans hsettings h.settings, .cons ⟨rfl, hk⟩ h.elements,
              fun y hy => ?_, h.ending.cons hlt hx⟩
            rcases List.mem_cons.mp hy with rfl | hy
            · exact hfind
            · have hfree := h.free y hy
              rw [withAdded, Metering.find?_added hlt] at hfree
              split at hfree
              · cases hfree
              · exact hfree

theorem InTurn.map_fst {xs : List α} {run : Outcome (List Nat) × Bench C R}
    {made : List (Instrument × Callback C)} {channel : LogChannel}
    (h : InTurn b registry instrument callback xs run made channel) :
    made.map Prod.fst = (xs.take made.length).map instrument := by
  have hsame : List.Forall₂ Eq (made.map Prod.fst) ((xs.take made.length).map instrument) :=
    List.forall₂_map_left_iff.mpr (List.forall₂_map_right_iff.mpr
      (h.elements.flip.imp fun _ _ hxy => hxy.1))
  rwa [List.forall₂_eq_eq_eq] at hsame

/-- If every callback can be made, every name is free, and neither the meter refuses nor a handler
raises, all are registered. -/
theorem InTurn.all {xs : List α} {callbackOf : α → Callback C}
    {run : Outcome (List Nat) × Bench C R} {made : List (Instrument × Callback C)}
    {channel : LogChannel}
    (h : InTurn b registry instrument (fun x => .ok (callbackOf x)) xs run made channel)
    (hfree : ∀ x ∈ xs, b.metering.find? registry (instrument x).name = none)
    (hgranted : ∀ x ∈ xs, b.metering.meter.refusal? (instrument x) = none)
    (hlogged : ∀ x ∈ xs,
      b.channel.verdict (Metering.registeredRecord (instrument x).name) = .ok ()) :
    run.1 = .returned (List.range' b.metering.registered.length xs.length) ∧
      made = xs.map fun x => (instrument x, callbackOf x) := by
  have hall : run.1 = .returned (List.range' b.metering.registered.length xs.length) ∧
      made.length = xs.length := by
    have hending := h.ending
    generalize made.length = n, run.1 = o at hending ⊢
    cases hending with
    | all => exact ⟨rfl, rfl⟩
    | unmade _ hf => cases hf
    | taken hx _ htaken =>
      rw [hfree _ (List.mem_of_getElem? hx)] at htaken
      cases htaken
    | refused hx _ _ hf =>
      rw [hgranted _ (List.mem_of_getElem? hx)] at hf
      cases hf
    | unlogged hx hf =>
      rw [hlogged _ (List.mem_of_getElem? hx)] at hf
      cases hf
  have hsame : List.Forall₂ Eq (xs.map fun x => (instrument x, callbackOf x)) made := by
    have helements := h.elements
    rw [hall.2, List.take_length] at helements
    exact List.forall₂_map_left_iff.mpr
      (helements.imp fun _ _ hxy => Prod.ext hxy.1.symm (Except.ok.inj hxy.2))
  rw [List.forall₂_eq_eq_eq] at hsame
  exact ⟨hall.1, hsame.symm⟩

/-- Instruments of different names, all of them free, are registered one after the other. What makes
their callbacks depends on the sources only, which stay as they are. -/
theorem collect_registering {xs : List α} {callbackOf : α → Callback C}
    (hmake : ∀ x ∈ xs, b.Consults (make x) (.ok (callbackOf x)))
    (hnodup : (xs.map fun x => (instrument x).name).Nodup)
    (hfree : ∀ x ∈ xs, b.metering.find? registry (instrument x).name = none)
    (hlt : registry < b.metering.registries.length) (hstep : b.metering.InStep)
    (hsafe : LogsSafely b) :
    ∃ m c, Act.collect xs (fun x => do
          let k ← make x
          Metering.registering registry (instrument x) (some k)) b =
        (.returned (List.range' b.metering.registered.length xs.length),
          { b with metering := m, channel := c }) ∧
      m.InStep ∧ c.NeverFails ∧ m.registered = b.metering.registered ++
        xs.map fun x => ⟨instrument x, callbackOf x, some registry, true⟩ := by
  obtain ⟨made, channel, h⟩ := inTurn_collect hmake hnodup hlt
  obtain ⟨hreturned, rfl⟩ := h.all hfree
    (fun x _ => Meter.refusal?_of_onDemand hstep.onDemand (instrument x))
    fun x _ => LogChannel.verdict_of_neverFails hsafe _
  refine ⟨_, channel, Prod.ext hreturned h.state, hstep.addedAll hlt h.free ?_, ?_, ?_⟩
  · rw [List.map_map]
    exact hnodup
  · obtain ⟨archives, passedOn, hchannel⟩ := h.settings
    rw [hchannel]
    exact hsafe
  · rw [Metering.registered_addedAll, List.map_map]
    rfl

end InTurn

end Bench

end AspectAgent
