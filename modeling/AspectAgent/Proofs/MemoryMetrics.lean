import AspectAgent.Proofs.MemoryObservers
import Mathlib.Logic.Function.Basic

/-!
# Memory metrics

The observers of memory are registered, and from then on anything may happen that leaves the meter
and the registries alone: pools change their names, their types and what they read, and collections
are run. Each collection finds, observer by observer, what the reading of each pool, and of the heap
and the rest, came to at that time. A sample is missing exactly where a reading gave no measurement,
and the labels of the pools are those of the registration.
-/

namespace AspectAgent

open Act HasMetering Relation Sampling

namespace Act

variable {σ α β γ : Type} [DecidableEq α] [Inhabited β] {I : σ → Prop} {P : β → Prop}
  {f : α → Act σ β} {g : α → Act σ γ} {h : α → β → γ}

/-- If the one action returns what the other makes of what was found, so do the actions for each of
some elements, one after the other. -/
theorem collect_both {xs : List α} (hnodup : xs.Nodup)
    (hstep : ∀ x ∈ xs, ∀ s, I s → ∃ b s', f x s = (.returned b, s') ∧ I s' ∧
      (P b → g x s = (.returned (h x b), s'))) {s : σ} (hs : I s) :
    ∃ (found : α → β) (s' : σ), collect xs f s = (.returned (xs.map found), s') ∧ I s' ∧
      ((∀ x ∈ xs, P (found x)) →
        collect xs g s = (.returned (xs.map fun x => h x (found x)), s')) := by
  induction xs generalizing s with
  | nil => exact ⟨fun _ => default, s, rfl, hs, fun _ => rfl⟩
  | cons x rest ih =>
    obtain ⟨hx, hnodup⟩ := List.nodup_cons.mp hnodup
    obtain ⟨b, s₁, hf, hs₁, hg⟩ := hstep x List.mem_cons_self s hs
    obtain ⟨found, s₂, hfs, hs₂, hgs⟩ :=
      ih hnodup (fun y hy => hstep y (List.mem_cons_of_mem x hy)) hs₁
    have hsame : ∀ y ∈ rest, Function.update found x b y = found y := by
      intro y hy
      refine Function.update_of_ne ?_ b found
      rintro rfl
      exact hx hy
    refine ⟨Function.update found x b, s₂, ?_, hs₂, fun hall => ?_⟩
    · rw [collect_cons, bind_of_returned hf, bind_of_returned hfs, List.map_cons,
        Function.update_self, List.map_congr_left hsame]
      rfl
    · have hb : P b := Function.update_self x b found ▸ hall x List.mem_cons_self
      have hrest : ∀ y ∈ rest, P (found y) :=
        fun y hy => hsame y hy ▸ hall y (List.mem_cons_of_mem x hy)
      have hmade : (rest.map fun y => h y (Function.update found x b y)) =
          rest.map fun y => h y (found y) :=
        List.map_congr_left fun y hy => by rw [hsame y hy]
      rw [collect_cons, bind_of_returned (hg hb), bind_of_returned (hgs hrest), List.map_cons,
        Function.update_self, hmade]
      rfl

end Act

namespace RuntimeMemory

/-- The parts of sources that an observer reads, in order. -/
def Scope.places (pools : List Nat) (memory : Nat) : Scope → List (Nat × Part)
  | .pools => pools.map (·, .usage)
  | .totals => [(memory, .heap), (memory, .nonHeap)]

/-- The labels that go with the heap and with the rest. -/
def totalLabels : List (Table Value) :=
  [[(typeKey, .text heap)], [(typeKey, .text nonHeap)]]

/-- The labels that go with what an observer reads. -/
def Scope.labelsAt (poolLabels : List (Table Value)) : Scope → List (Table Value)
  | .pools => poolLabels
  | .totals => totalLabels

/-- The sample of a reading, if the reading came to a measurement. -/
def sample? (name : String) (time : Value) (labels : Table Value) :
    Except Failure Value → Option MetricSample
  | .ok v => v.measured?.map fun x => ⟨name, time, .float x, labels⟩
  | .error _ => none

/-- A reading that is left out: it failed, or it is the mark of a missing value, a not-a-number or
no number at all. -/
inductive IsMissing : Except Failure Value → Prop where
  | failed (f : Failure) : IsMissing (.error f)
  | mark {v : Value} (h : v.isUnavailable = true) : IsMissing (.ok v)
  | notANumber {x : Binary64} (h : x.isNaN = true) : IsMissing (.ok (.float x))
  | noNumber {v : Value} (hint : ∀ n, v ≠ .int n) (hfloat : ∀ x, v ≠ .float x) : IsMissing (.ok v)

theorem sample?_eq_none_iff {o : Except Failure Value} (hsmall : isTooLarge o = false)
    (name : String) (time : Value) (labels : Table Value) :
    sample? name time labels o = none ↔ IsMissing o := by
  cases o with
  | error f => exact ⟨fun _ => .failed f, fun _ => rfl⟩
  | ok v =>
    rw [sample?, Option.map_eq_none_iff]
    constructor
    · intro hnone
      cases v with
      | int n =>
        have hfits : Binary64.ofInt? n ≠ none := by
          intro h
          rw [isTooLarge, Value.isTooLarge, h] at hsmall
          cases hsmall
        have hmark : n = -1 := by
          by_contra hn
          rw [Value.measured?_int, if_neg hn] at hnone
          exact hfits hnone
        exact .mark (by rw [Value.isUnavailable_int, hmark]; rfl)
      | float x =>
        have hleft : (x.isNaN || (Value.float x).isUnavailable) = true := by
          by_contra h
          rw [Value.measured?, if_neg h] at hnone
          cases hnone
        rcases Bool.or_eq_true_iff.mp hleft with hnan | hmark
        · exact .notANumber hnan
        · exact .mark hmark
      | _ => exact .noNumber (fun _ => by simp) fun _ => by simp
    · intro hmissing
      cases hmissing with
      | mark h => exact Value.measured?_of_isUnavailable h
      | notANumber h => simp [Value.measured?, h]
      | noNumber hint hfloat =>
        cases v with
        | int n => exact absurd rfl (hint n)
        | float x => exact absurd rfl (hfloat x)
        | _ => rfl

/-- The samples of readings, each with its labels. -/
def samplesOf (name : String) (time : Value) (labels : List (Table Value))
    (readings : List (Except Failure Value)) : List MetricSample :=
  (labels.zip readings).filterMap fun p => sample? name time p.1 p.2

/-- The samples of all observers, given what each has found. -/
def collected (stem : String) (time : Value) (poolLabels : List (Table Value))
    (found : Scope → Measure → List (Except Failure Value)) : List MetricSample :=
  (measures.flatMap fun m =>
    samplesOf (stem ++ ".pool." ++ m.suffix) time poolLabels (found .pools m)) ++
  measures.flatMap fun m =>
    samplesOf (stem ++ "." ++ m.suffix) time totalLabels (found .totals m)

theorem collected_eq (stem : String) (time : Value) (poolLabels : List (Table Value))
    (found : Scope → Measure → List (Except Failure Value)) :
    collected stem time poolLabels found = observers.flatMap fun x =>
      samplesOf (x.1.instrument stem x.2).name time (x.1.labelsAt poolLabels) (found x.1 x.2) := by
  rw [observers, List.flatMap_append, List.flatMap_map, List.flatMap_map]
  rfl

theorem collected_congr (stem : String) (time : Value) (poolLabels : List (Table Value))
    {found found' : Scope → Measure → List (Except Failure Value)}
    (h : ∀ s, ∀ m ∈ measures, found s m = found' s m) :
    collected stem time poolLabels found = collected stem time poolLabels found' := by
  have hsame : ∀ x ∈ observers, found x.1 x.2 = found' x.1 x.2 :=
    fun x hx => h x.1 x.2 (mem_observers.mp hx)
  rw [collected_eq, collected_eq, List.flatMap, List.flatMap]
  exact congrArg List.flatten (List.map_congr_left fun x hx => by rw [hsame x hx])

theorem samples_recordsOf {E : Type} (i : Instrument) (time : Value)
    (entities : List (E × AttributeSet)) (readings : List (Except Failure Value)) :
    i.samples time (recordsOf entities readings) =
      samplesOf i.name time (entities.map fun e => e.2.entries) readings := by
  induction entities generalizing readings with
  | nil => rfl
  | cons e rest ih =>
    cases readings with
    | nil => rfl
    | cons o os =>
      have hfirst : i.samples time (recordOf e.2 o) =
          (sample? i.name time e.2.entries o).toList := by
        cases o with
        | error f => rfl
        | ok v =>
          rw [recordOf, sample?]
          cases v.measured? <;> rfl
      have hsplit : i.samples time (recordsOf (e :: rest) (o :: os)) =
          i.samples time (recordOf e.2 o) ++ i.samples time (recordsOf rest os) := by
        rw [Instrument.samples, recordsOf, List.zip_cons_cons, List.flatMap_cons, List.map_append]
        rfl
      rw [hsplit, hfirst, ih, List.map_cons, samplesOf, samplesOf, List.zip_cons_cons,
        List.filterMap_cons]
      cases sample? i.name time e.2.entries o <;> rfl

end RuntimeMemory

/-! ## What comes after the registration -/

section Sequel

variable {σ K : Type} [HasMetering σ K] [HasChannel σ] {callbacks : Interpretation K σ}
  {st st' : σ}

/-- What happens once all instruments are registered: a collection, or anything else that leaves the
meter and the registries alone. -/
inductive Sequel (callbacks : Interpretation K σ) : σ → σ → Prop where
  | collect (st : σ) (time : Value) :
      Sequel callbacks st (Collection.collect callbacks time st).2
  | other {st st' : σ} (h : (leavesMetering σ).allows true st st') : Sequel callbacks st st'

/-- Collections and the like leave the meter and the registries as they are. -/
theorem Metering.Orderly.sequel [LawfulMetering σ] (h : Orderly callbacks st)
    (hsequel : ReflTransGen (Sequel callbacks) st st') :
    Orderly callbacks st' ∧ metering st' = metering st := by
  induction hsequel with
  | refl => exact ⟨h, rfl⟩
  | @tail st₁ st₂ _ hstep ih =>
    obtain ⟨horderly, hmetering⟩ := ih
    have hkept : (leavesMetering σ).allows true st₁ st₂ := by
      cases hstep with
      | collect time => exact horderly.collect_leavesMetering time
      | other hother => exact hother
    refine ⟨⟨?_, hkept.2 horderly.safe, ?_⟩, hkept.1.trans hmetering⟩
    · rw [hkept.1]
      exact horderly.inStep
    · rw [hkept.1]
      exact horderly.quiet

end Sequel

namespace Bench

open RuntimeMemory

variable {C R : Type} (run : C → Act (Bench C R) R)

/-- To replace a field of a source leaves the meter and the registries alone. -/
theorem setSource_leavesMetering (name field : String) (r : Reading C) :
    (leavesMetering (Bench C R)).Meets (setSource name field r) := by
  refine Contract.meets_read fun b => ?_
  refine Contract.meets_bind (Contract.meets_ofExcept _) (fun n => ?_) b
  refine Contract.meets_bind (Contract.meets_ofExcept _) fun s => ?_
  exact Contract.meets_change fun _ => ⟨rfl, id⟩

/-! ## Surveys of memory -/

/-- Reads what an observer reads, one part after the other, and reports what is no usable number. -/
def surveyOf (stem : String) (pools : List Nat) (memory : Nat) :
    Scope → Measure → Act (Bench C R) (List (Except Failure Value))
  | .pools, m =>
    Act.collect pools
      (sourceSampler run .usage (.field m.field) (poolInstrument stem m).name).survey
  | .totals, m =>
    Act.collect (totalsOf memory)
      (categorySampler run (.field m.field) (totalInstrument stem m).name).survey

/-- All that the observers read, in their order. -/
def surveyMemory (stem : String) (pools : List Nat) (memory : Nat) :
    Act (Bench C R) (List (List (Except Failure Value))) :=
  Act.collect observers fun x => surveyOf run stem pools memory x.1 x.2

/-- From the states with a property, in none of which a handler raises, the parts of sources that
the observers read come to a value or to an ordinary failure, and the property stays. Nor does it
matter to the property what is logged. -/
structure ReadsMemory (I : Bench C R → Prop) (pools : List Nat) (memory : Nat) : Prop where
  safe : ∀ b, I b → LogsSafely b
  logged : ∀ b c, I b → c.NeverFails → I { b with channel := c }
  read : ∀ s, ∀ p ∈ Scope.places pools memory s, ∀ b, I b →
    ∃ o b', Act.caught (readPart run p.2 p.1) b = (.returned o, b') ∧ I b'

variable {run} {stem : String} {pools : List Nat} {memory : Nat} {I : Bench C R → Prop}
  {E : Type} {s : EntitySampler (Bench C R) E} {place : E → Nat × Part} {f : MemoryField}
  {entities : List E}

theorem isOrdinary_of_field {v : Value} {failure : Failure} (h : f.of v = .error failure) :
    failure.isOrdinary = true := by
  cases v with
  | usage i u c m => cases h
  | _ =>
    cases h
    rfl

variable (run) in
/-- A sampler of a field of what is read at the place of each entity. -/
structure Observes (s : EntitySampler (Bench C R) E) (place : E → Nat × Part) (f : MemoryField) :
    Prop where
  read : ∀ e, s.read e = readPart run (place e).2 (place e).1
  extract : s.extract = f.of
  shown : ∀ e b, ∃ text, s.shown e b = (.returned text, b)

variable (run f) in
theorem observes_sourceSampler (part : Part) (instrument : String) :
    Observes run (sourceSampler run part (.field f) instrument) (·, part) f :=
  ⟨fun _ => rfl, rfl, fun _ _ => ⟨_, rfl⟩⟩

variable (run f) in
theorem observes_categorySampler (instrument : String) :
    Observes run (categorySampler run (.field f) instrument) Prod.snd f :=
  ⟨fun _ => rfl, rfl, fun _ _ => ⟨_, rfl⟩⟩

namespace Observes

variable (hs : Observes run s place f)
include hs

/-- What a reading comes to is the field of what is read. -/
theorem caught_reading (e : E) : Act.caught (s.reading e) =
    Act.caught (readPart run (place e).2 (place e).1) >>= fun o => pure (o >>= f.of) := by
  rw [EntitySampler.reading, hs.read, hs.extract]
  exact caught_bind_ofExcept _ _ fun _ _ => isOrdinary_of_field

theorem readable (h : ReadsMemory run I pools memory) (scope : Scope)
    (hplaces : ∀ e ∈ entities, place e ∈ scope.places pools memory) : s.Readable I entities where
  safe := h.safe
  logged := h.logged
  shown e _ b hb := by
    obtain ⟨text, hshown⟩ := hs.shown e b
    exact ⟨text, b, hshown, hb⟩
  read e he b hb := by
    obtain ⟨o, b', ho, hb'⟩ := h.read scope (place e) (hplaces e he) b hb
    refine ⟨o >>= f.of, b', ?_, hb'⟩
    rw [hs.caught_reading, bind_of_returned ho]
    rfl

theorem surveys_settle (h : s.Readable I entities) {answer : Nat × Part → Except Failure Value}
    (hanswer : ∀ e ∈ entities,
      Settles I (Act.caught (readPart run (place e).2 (place e).1)) (.ok (answer (place e)))) :
    Settles I (Act.collect entities s.survey)
      (.ok (entities.map fun e => answer (place e) >>= f.of)) := by
  refine settles_collect entities fun e he => h.survey_settles he ?_
  rw [hs.caught_reading]
  exact settles_bind (hanswer e he) (settles_pure _)

end Observes

namespace ReadsMemory

variable (h : ReadsMemory run I pools memory)
include h

theorem readable_pools (m : Measure) (instrument : String) :
    (sourceSampler run .usage (.field m.field) instrument).Readable I pools :=
  (observes_sourceSampler run m.field .usage instrument).readable h .pools
    fun _ hn => List.mem_map_of_mem hn

theorem readable_totals (m : Measure) (instrument : String) :
    (categorySampler run (.field m.field) instrument).Readable I (totalsOf memory) :=
  (observes_categorySampler run m.field instrument).readable h .totals
    fun _ he => List.mem_map_of_mem (f := Prod.snd) he

theorem surveyOf_returns (stem : String) (scope : Scope) (m : Measure) {b : Bench C R}
    (hb : I b) :
    ∃ row b', surveyOf run stem pools memory scope m b = (.returned row, b') ∧ I b' := by
  cases scope with
  | pools => exact (h.readable_pools m _).surveys_return hb
  | totals => exact (h.readable_totals m _).surveys_return hb

theorem surveyOf_settles (stem : String) (scope : Scope) (m : Measure)
    {answer : Nat × Part → Except Failure Value}
    (hanswer : ∀ p ∈ scope.places pools memory,
      Settles I (Act.caught (readPart run p.2 p.1)) (.ok (answer p))) :
    Settles I (surveyOf run stem pools memory scope m)
      (.ok ((scope.places pools memory).map fun p => answer p >>= m.field.of)) := by
  cases scope with
  | pools =>
    have hpools := (observes_sourceSampler run m.field .usage _).surveys_settle
      (h.readable_pools m (poolInstrument stem m).name)
      fun n hn => hanswer (n, .usage) (List.mem_map_of_mem hn)
    rw [Scope.places, List.map_map]
    exact hpools
  | totals =>
    exact (observes_categorySampler run m.field _).surveys_settle
      (h.readable_totals m (totalInstrument stem m).name)
      fun e he => hanswer e.2 (List.mem_map_of_mem (f := Prod.snd) he)

end ReadsMemory

/-- The reading of a part answers at once, with a value or with an ordinary failure. -/
inductive Answers (s : Source C) (part : Part) : Except Failure Value → Prop where
  | value {v : Value} (h : s.part part = .ok (.value v)) : Answers s part (.ok v)
  | failing {failure : Failure} (h : s.part part = .ok (.failing failure))
      (hordinary : failure.isOrdinary = true) : Answers s part (.error failure)

/-- As long as the sources stay as they are, a part that answers at once has one answer. -/
theorem Answers.settles {sources : List (Source C)} {p : Nat × Part} {o : Except Failure Value}
    (h : Answers (sources.getD p.1 default) p.2 o) :
    Settles (fun b : Bench C R => b.sources = sources ∧ LogsSafely b)
      (Act.caught (readPart run p.2 p.1)) (.ok o) := by
  rintro b ⟨rfl, hsafe⟩
  refine ⟨b, ?_, rfl, hsafe⟩
  cases h with
  | value hpart =>
    refine caught_of_returned ?_
    rw [readPart, bind_of_returned (read_apply b), source, hpart]
    rfl
  | failing hpart hordinary =>
    refine caught_of_ordinary ?_ hordinary
    rw [readPart, bind_of_returned (read_apply b), source, hpart]
    rfl

theorem readsMemory_of_answers {sources : List (Source C)}
    (h : ∀ s, ∀ p ∈ Scope.places pools memory s, ∃ o, Answers (sources.getD p.1 default) p.2 o) :
    ReadsMemory run (fun b => b.sources = sources ∧ LogsSafely b) pools memory where
  safe _ hb := hb.2
  logged _ _ hb hc := ⟨hb.1, hc⟩
  read s p hp b hb := by
    obtain ⟨o, ho⟩ := h s p hp
    obtain ⟨b', hrun, hb'⟩ := ho.settles b hb
    exact ⟨o, b', hrun, hb'⟩

/-! ## Collections -/

/-- Where the survey of some entities comes to an end, an instrument that samples them finds what
the survey has found. -/
theorem sample_of_survey {callbacks : Interpretation (Callback C) (Bench C R)} {time : Value}
    {r : RegisteredInstrument (Callback C)} {entities : List (E × AttributeSet)}
    (hr : ∀ sink, callbacks r.callback sink = sampleEntities s.beside sink entities)
    {b b' : Bench C R} {row : List (Except Failure Value)}
    (h : Act.collect (entities.map Prod.fst) s.survey b = (.returned row, b'))
    (hsmall : ∀ o ∈ row, isTooLarge o = false) :
    r.sample callbacks time b = (.returned
      (samplesOf r.instrument.name time (entities.map fun e => e.2.entries) row), b') := by
  have hrun : callbacks r.callback Recorder.asNumber ([], b) =
      (.returned (), recordsOf entities row, b') := by
    rw [hr]
    exact sampleEntities_of_survey h hsmall []
  rw [RegisteredInstrument.sample, bind_of_returned (Recorder.runOrdinary_of_returned hrun),
    ← samples_recordsOf]
  rfl

theorem sample_of_surveyOf {time : Value} {labelsOf : Nat → Table Value} {registry : Nat}
    {x : Scope × Measure} {b b' : Bench C R} {row : List (Except Failure Value)}
    (h : surveyOf run stem pools memory x.1 x.2 b = (.returned row, b'))
    (hsmall : ∀ o ∈ row, isTooLarge o = false) :
    (observer stem pools memory labelsOf registry x).sample (interpret run) time b = (.returned
      (samplesOf (x.1.instrument stem x.2).name time (x.1.labelsAt (pools.map labelsOf)) row),
      b') := by
  obtain ⟨scope, m⟩ := x
  cases scope with
  | pools =>
    let entities : List (Nat × AttributeSet) := pools.map fun n => (n, { entries := labelsOf n })
    have hfirst : entities.map Prod.fst = pools := by
      rw [List.map_map]
      exact List.map_id pools
    have hlabels : (entities.map fun e => e.2.entries) = pools.map labelsOf := List.map_map
    have hsurvey : Act.collect (entities.map Prod.fst)
        (sourceSampler run .usage (.field m.field) (poolInstrument stem m).name).survey b =
          (.returned row, b') := by
      rw [hfirst]
      exact h
    show _ = (Outcome.returned (samplesOf _ time (pools.map labelsOf) row), b')
    rw [← hlabels]
    exact sample_of_survey (interpret_listed run ⟨entities⟩ .usage (.field m.field) _) hsurvey
      hsmall
  | totals =>
    have hsurvey : Act.collect ((categories typeKey (totalsOf memory)).map Prod.fst)
        (categorySampler run (.field m.field) (totalInstrument stem m).name).survey b =
          (.returned row, b') := h
    exact sample_of_survey (interpret_dual run rfl (.field m.field) typeKey _) hsurvey hsmall

/-- A collection of the observers alone finds what a survey of memory finds. -/
theorem collect_of_surveys (h : ReadsMemory run I pools memory) (stem : String)
    (labelsOf : Nat → Table Value) (registry : Nat) (time : Value) {b : Bench C R} (hb : I b)
    (horderly : Metering.Orderly (interpret run) b)
    (hregistered : b.metering.registered =
      observers.map (observer stem pools memory labelsOf registry)) :
    ∃ (found : Scope → Measure → List (Except Failure Value)) (b' : Bench C R),
      surveyMemory run stem pools memory b =
        (.returned (observers.map fun x => found x.1 x.2), b') ∧ I b' ∧
      ((∀ s, ∀ m ∈ measures, ∀ o ∈ found s m, isTooLarge o = false) →
        Collection.collect (interpret run) time b =
          (.returned (collected stem time (pools.map labelsOf) found), b')) := by
  have hactive : b.metering.activeOnes =
      observers.map (observer stem pools memory labelsOf registry) := by
    rw [Metering.activeOnes, hregistered]
    refine List.filter_eq_self.mpr fun r hr => ?_
    obtain ⟨x, -, rfl⟩ := List.mem_map.mp hr
    rfl
  have hstep : ∀ x ∈ observers, ∀ b, I b → ∃ row b',
      surveyOf run stem pools memory x.1 x.2 b = (.returned row, b') ∧ I b' ∧
        ((∀ o ∈ row, isTooLarge o = false) →
          (observer stem pools memory labelsOf registry x).sample (interpret run) time b =
            (.returned (samplesOf (x.1.instrument stem x.2).name time
              (x.1.labelsAt (pools.map labelsOf)) row), b')) := by
    intro x _ b hb
    obtain ⟨row, b', hsurvey, hb'⟩ := h.surveyOf_returns stem x.1 x.2 hb
    exact ⟨row, b', hsurvey, hb', sample_of_surveyOf hsurvey⟩
  obtain ⟨found, b', hsurveys, hb', hsamples⟩ := collect_both (by decide +kernel) hstep hb
  refine ⟨fun scope m => found (scope, m), b', hsurveys, hb', fun hsmall => ?_⟩
  have hall : ∀ x ∈ observers, ∀ o ∈ found x, isTooLarge o = false :=
    fun x hx => hsmall x.1 x.2 (mem_observers.mp hx)
  rw [Collection.collect_eq_sampleAll horderly.inStep horderly.quiet rfl horderly.safe,
    Collection.sampleAll]
  show (Act.collect b.metering.activeOnes _ >>= _) b = _
  rw [hactive, collect_map, bind_of_returned (hsamples hall), collected_eq, List.flatMap]
  rfl

/-- Two pools of one name, of which one cannot be read, and the memory, of which only the heap gives
a reading of its fields. Warnings are not logged. -/
def twoPools : Bench Unit Unit :=
  { sources :=
      [.pool (.text "eden") (.text "heap")
          (.value (.usage (.int 1) (.int 1) (.int (-1)) (.bool true))),
        .pool (.text "eden") (.text "code") (.failing .readingNaN),
        .subsystem (.value (.usage (.int (-1)) (.float .one) (.float .notANumber) (.int 1)))
          (.value .null)]
    sourceNumbers := [("first", 0)]
    channel := { level := 40 } }

/-- What the parts of the sources answer. -/
def twoPoolsAnswer (p : Nat × Part) : Except Failure Value :=
  match p with
  | (0, _) => .ok (.usage (.int 1) (.int 1) (.int (-1)) (.bool true))
  | (1, _) => .error .readingNaN
  | (_, .heap) => .ok (.usage (.int (-1)) (.float .one) (.float .notANumber) (.int 1))
  | _ => .ok .null

/-- The sources after the first pool was renamed. -/
def renamedPools : List (Source Unit) :=
  twoPools.sources.modify 0 fun s => { s with fields := s.fields.put "name" (.value (.text "old")) }

/-- What an observer finds of them. -/
def twoPoolsFound (s : Scope) (m : Measure) : List (Except Failure Value) :=
  (s.places [0, 1, 0] 2).map fun p => twoPoolsAnswer p >>= m.field.of

theorem answers_renamedPools (s : Scope) : ∀ p ∈ s.places [0, 1, 0] 2,
    Answers (renamedPools.getD p.1 default) p.2 (twoPoolsAnswer p) := by
  have hfirst : Answers (renamedPools.getD 0 default) .usage (twoPoolsAnswer (0, .usage)) :=
    .value rfl
  have hsecond : Answers (renamedPools.getD 1 default) .usage (twoPoolsAnswer (1, .usage)) :=
    .failing rfl rfl
  have hheap : Answers (renamedPools.getD 2 default) .heap (twoPoolsAnswer (2, .heap)) :=
    .value rfl
  have hnonHeap : Answers (renamedPools.getD 2 default) .nonHeap (twoPoolsAnswer (2, .nonHeap)) :=
    .value rfl
  cases s with
  | pools =>
    have hpools : Scope.places [0, 1, 0] 2 .pools = [(0, .usage), (1, .usage), (0, .usage)] := rfl
    rw [hpools]
    simp only [List.forall_mem_cons]
    exact ⟨hfirst, hsecond, hfirst, nofun⟩
  | totals =>
    rw [Scope.places]
    simp only [List.forall_mem_cons]
    exact ⟨hheap, hnonHeap, nofun⟩

theorem collected_twoPools (time : Value) (first second : Table Value) :
    collected "jvm" time [first, second, first] twoPoolsFound =
      [⟨"jvm.pool.usage", time, .float .one, first⟩, ⟨"jvm.pool.usage", time, .float .one, first⟩,
        ⟨"jvm.pool.init", time, .float .one, first⟩, ⟨"jvm.pool.init", time, .float .one, first⟩,
        ⟨"jvm.usage", time, .float .one, [("type", .text "heap")]⟩,
        ⟨"jvm.limit", time, .float .one, [("type", .text "heap")]⟩] := by
  have hone : (Value.int 1).measured? = some .one := by decide +kernel
  have hfloat : (Value.float .one).measured? = some .one := by decide +kernel
  have hnan : (Value.float .notANumber).measured? = none := by decide +kernel
  have hmark : (Value.int (-1)).measured? = none := rfl
  have hbool : (Value.bool true).measured? = none := rfl
  have hpools : ∀ m, twoPoolsFound .pools m =
      [m.field.of (.usage (.int 1) (.int 1) (.int (-1)) (.bool true)), .error .readingNaN,
        m.field.of (.usage (.int 1) (.int 1) (.int (-1)) (.bool true))] := fun _ => rfl
  have htotals : ∀ m, twoPoolsFound .totals m =
      [m.field.of (.usage (.int (-1)) (.float .one) (.float .notANumber) (.int 1)),
        m.field.of .null] := fun _ => rfl
  simp only [collected, measures, List.flatMap_cons, List.flatMap_nil, hpools, htotals,
    MemoryField.of, samplesOf, totalLabels, List.zip_cons_cons, List.zip_nil_left,
    List.filterMap_cons, List.filterMap_nil, sample?, hone, hfloat, hnan, hmark, hbool, Option.map]
  rfl

end Bench

end AspectAgent
