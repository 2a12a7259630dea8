import AspectAgent.Metrics.Source
import AspectAgent.Proofs.Emitting
import AspectAgent.Proofs.EntitySurvey

/-!
# Isolation of entities

The callback of a list of sources, or of two categories, is registered on an on-demand meter. From
then on each collection finds at the place of its instrument the measurements of the entities, one
for each whose reading is a usable number: no reading that fails or is none keeps another from being
recorded. There is one exception. An integer that is too large for a floating-point number is
refused by the recorder, outside of what looks after one entity, and ends the callback; what was
recorded by then is kept.
-/

namespace AspectAgent

open Act Sampling

namespace AttributeCache

variable {σ E : Type} {labels : E → Act σ (Table Value)} {entities : List E} {st st' : σ}
  {cache : AttributeCache E}

private theorem zip_of_collect {pairs : List (E × AttributeSet)}
    (h : Act.collect entities (fun e => labels e >>= fun t =>
      Act.ofExcept (AttributeSet.of? t) >>= fun set => pure (e, set)) st =
        (.returned pairs, st')) :
    ∃ sets, Act.collect entities
        (fun e => labels e >>= fun t => Act.ofExcept (AttributeSet.of? t)) st =
          (.returned sets, st') ∧
      sets.length = entities.length ∧ pairs = entities.zip sets := by
  induction entities generalizing pairs st with
  | nil =>
    cases h
    exact ⟨[], rfl, rfl, rfl⟩
  | cons e rest ih =>
    rw [collect_cons] at h
    obtain ⟨p, st₁, hp, hrest⟩ := returned_of_bind h
    obtain ⟨ps, st₂, hps, hpure⟩ := returned_of_bind hrest
    cases hpure
    rw [← bind_assoc] at hp
    obtain ⟨set, st₃, hset, hpair⟩ := returned_of_bind hp
    cases hpair
    obtain ⟨sets, hsets, hlength, hzip⟩ := ih hps
    refine ⟨set :: sets, ?_, congrArg (· + 1) hlength, congrArg ((e, set) :: ·) hzip⟩
    rw [collect_cons, bind_of_returned hset, bind_of_returned hsets]
    rfl

/-- A cache pairs each entity with the set of its own labels. -/
theorem pairs_of_build (h : build labels entities st = (.returned cache, st')) :
    ∃ sets, Act.collect entities
        (fun e => labels e >>= fun t => Act.ofExcept (AttributeSet.of? t)) st =
          (.returned sets, st') ∧
      sets.length = entities.length ∧ cache.pairs = entities.zip sets := by
  obtain ⟨pairs, st₁, hpairs, hpure⟩ := returned_of_bind h
  cases hpure
  exact zip_of_collect hpairs

end AttributeCache

/-- To sample a category is to sample an entity that is labelled with the category. -/
theorem Sampling.DualSampler.sampleCategory_eq {σ E : Type} [HasChannel σ] (d : DualSampler σ)
    {s : EntitySampler σ E} {e : E} {category : String} {read : Act σ Value}
    (hinstrument : s.instrument = d.instrument) (hextract : s.extract = d.extract)
    (hread : s.read e = read) (hshown : s.shown e = pure (Text.quoted category)) (sink : Sink σ) :
    d.sampleCategory sink category read =
      sampleEntities s sink [(e, { entries := [(d.labelKey, .text category)] })] := by
  subst hread
  rw [sampleEntities, DualSampler.sampleCategory, EntitySampler.number, ← hextract, ← hinstrument,
    hshown]
  refine congrArg (Act.caught (s.number e) >>= ·) (funext fun o => ?_)
  have hend : ∀ x : Act σ Unit, x = x >>= fun _ => sampleEntities s sink [] :=
    fun x => (bind_pure_unit (x := x)).symm
  cases o with
  | ok v =>
    cases hv : v.isUnavailable with
    | true => simp [hv, sampleEntities]; rfl
    | false => simpa [hv] using hend (sink v [(d.labelKey, .text category)])
  | error f => simpa using hend (report (faultRecord s.instrument (Text.quoted category) f))

namespace Bench

variable {C R : Type} (run : C → Act (Bench C R) R)

/-- How a list of sources is sampled. -/
def sourceSampler (part : Part) (extractor : Extractor) (instrument : String) :
    EntitySampler (Bench C R) Nat where
  instrument := instrument
  shown n := do return (Bench.source (← Act.read) n).shown
  read n := readPart run part n
  extract := extractor.extract

theorem interpret_listed (cache : AttributeCache Nat) (part : Part) (extractor : Extractor)
    (instrument : String) (sink : Sink (Recorder (Bench C R))) :
    interpret run (.listed cache part extractor instrument) sink =
      sampleEntities (sourceSampler run part extractor instrument).beside sink cache.pairs := rfl

/-- How categories are sampled, each of which is a name with the part of a source. -/
def categorySampler (extractor : Extractor) (instrument : String) :
    EntitySampler (Bench C R) (String × Nat × Part) where
  instrument := instrument
  shown e := return Text.quoted e.1
  read e := readPart run e.2.2 e.2.1
  extract := extractor.extract

/-- Categories with the label that tells each. -/
def categories (labelKey : String) (readers : Table (Nat × Part)) :
    List ((String × Nat × Part) × AttributeSet) :=
  readers.map fun e => (e, { entries := [(labelKey, .text e.1)] })

theorem interpret_dual {readers : Table (Nat × Part)} (h : readers.length = 2)
    (extractor : Extractor) (labelKey instrument : String) (sink : Sink (Recorder (Bench C R))) :
    interpret run (.dual readers extractor labelKey instrument) sink =
      sampleEntities (categorySampler run extractor instrument).beside sink
        (categories labelKey readers) := by
  obtain ⟨first, second, rfl⟩ : ∃ first second, readers = [first, second] := by
    match readers, h with
    | [first, second], _ => exact ⟨first, second, rfl⟩
  let d : DualSampler (Recorder (Bench C R)) :=
    { labelKey := labelKey
      instrument := instrument
      first := (first.1, Recorder.beside (readPart run first.2.2 first.2.1))
      second := (second.1, Recorder.beside (readPart run second.2.2 second.2.1))
      extract := extractor.extract }
  let s := (categorySampler run extractor instrument).beside
  have hcategory : ∀ e : String × Nat × Part,
      d.sampleCategory sink e.1 (Recorder.beside (readPart run e.2.2 e.2.1)) =
        sampleEntities s sink (categories labelKey [e]) :=
    fun e => d.sampleCategory_eq (s := s) rfl rfl rfl rfl sink
  have hcategories : categories labelKey [first, second] =
      categories labelKey [first] ++ categories labelKey [second] := rfl
  rw [hcategories, sampleEntities_append, ← hcategory, ← hcategory]
  rfl

/-- What becomes of a callback that samples entities. Registered on an on-demand meter, it emits.
Where it emits, a collection finds what a survey of the entities finds, provided that no reading is
too large. If the reading of an entity is, a collection finds what those before it came to. -/
structure Isolates (callbacks : Interpretation (Callback C) (Bench C R)) (time : Value)
    (k : Callback C) {E : Type} (s : EntitySampler (Bench C R) E)
    (entities : List (E × AttributeSet)) : Prop where
  emits : ∀ handle registry i number (b b' : Bench C R), b.metering.meter.style = .onDemand →
    register handle registry i (some k) b = (.returned number, b') →
      b'.metering.Emits b.metering.meter.instruments.length number i k
  finds : ∀ I place number i b, s.Readable I (entities.map Prod.fst) → I b →
    b.metering.Emits place number i k →
      (∃ readings b', Act.collect (entities.map Prod.fst) s.survey b = (.returned readings, b') ∧
        I b' ∧ ((∀ o ∈ readings, isTooLarge o = false) →
          Collection.Finds callbacks time place i (recordsOf entities readings) b b')) ∧
      ∀ before e attributes rest, entities = before ++ (e, attributes) :: rest →
        ∀ readings b₁ o b₂,
          Act.collect (before.map Prod.fst) s.survey b = (.returned readings, b₁) →
          (∀ o ∈ readings, isTooLarge o = false) →
          s.survey e b₁ = (.returned o, b₂) → isTooLarge o = true →
          ∃ b', I b' ∧
            Collection.Finds callbacks time place i (recordsOf before readings) b b'

theorem emits_of_register {handle : String} {registry number : Nat} {i : Instrument}
    {k : Callback C} {b b' : Bench C R} (hstyle : b.metering.meter.style = .onDemand)
    (h : register handle registry i (some k) b = (.returned number, b')) :
    b'.metering.Emits b.metering.meter.instruments.length number i k := by
  have hregister : register handle registry i (some k) b =
      (Act.ofExcept (b.metering.register registry i (some k)) >>= fun made => do
        Act.change (HasMetering.setMetering made.2)
        report (Metering.registeredRecord i.name)
        Act.change (remember handle made.1)
        return made.1 : Act (Bench C R) Nat) b := by
    simp only [register, Metering.registering, bind_assoc, pure_bind]
    rfl
  rw [hregister] at h
  obtain ⟨⟨made, m⟩, b₁, hmade, hset⟩ := returned_of_bind h
  obtain ⟨hm, rfl⟩ := returned_of_ofExcept hmade
  rw [bind_apply, change_apply] at hset
  obtain ⟨_, b₂, hreport, hremember⟩ := returned_of_bind hset
  cases hremember
  have hmetering : b₂.metering = m := congrArg (fun o => o.2.metering) hreport.symm
  show b₂.metering.Emits _ made i k
  rw [hmetering]
  exact Metering.emits_of_register hstyle hm

theorem isolates_of_samples {callbacks : Interpretation (Callback C) (Bench C R)} {k : Callback C}
    {E : Type} {s : EntitySampler (Bench C R) E} {entities : List (E × AttributeSet)}
    (hk : ∀ sink, callbacks k sink = sampleEntities s.beside sink entities) (time : Value) :
    Isolates callbacks time k s entities where
  emits _ _ _ _ _ _ hstyle h := emits_of_register hstyle h
  finds I place number i b hreadable hb hemits := by
    constructor
    · obtain ⟨readings, b', hsurvey, hb'⟩ := hreadable.surveys_return hb
      refine ⟨readings, b', hsurvey, hb', fun hsmall => ?_⟩
      have hrun : callbacks k Recorder.asNumber ([], b) =
          (.returned (), recordsOf entities readings, b') := by
        rw [hk]
        exact sampleEntities_of_survey hsurvey hsmall []
      exact Collection.finds_of_sampled (Collection.sampleInstrument_of_returned hemits hrun)
    · intro before e attributes rest hentities readings b₁ o b₂ hsurvey hsmall he hlarge
      have hrun : callbacks k Recorder.asNumber ([], b) =
          (.raised .integerTooLarge, recordsOf before readings, b₂) := by
        rw [hk, hentities]
        exact sampleEntities_of_tooLarge hsurvey hsmall he hlarge attributes rest []
      have hbefore : before.map Prod.fst ⊆ entities.map Prod.fst := by
        rw [hentities, List.map_append]
        exact List.subset_append_left _ _
      have he' : e ∈ entities.map Prod.fst := by simp [hentities]
      have hb₁ : I b₁ := (hreadable.of_subset hbefore).of_surveys hb hsurvey
      have hb₂ : I b₂ := hreadable.of_survey he' hb₁ he
      obtain ⟨b₃, hreport, hb₃⟩ := hreadable.report_returns
        (LogRecord.samplingRecord_isPlain i.name "None" .integerTooLarge) hb₂
      exact ⟨b₃, hb₃, Collection.finds_of_sampled
        (Collection.sampleInstrument_of_raised hemits hrun rfl hreport)⟩

/-- **Isolation of entities.** A callback over a list of sources holds for each of them the set of
its own labels; one over two categories holds for each the label that tells the category; others may
sample entities in any way that an entity sampler can. Registered on an on-demand meter, it emits.
In every state in which no handler raises and every reading comes to a value or to an ordinary
failure, a collection then finds one sample for each entity whose reading is a number other than
minus one and no not-a-number, with the attributes of the entity and in the order of the entities.
This holds as long as no reading is an integer too large for a floating-point number: the first of
these ends the cycle of the instrument, and a collection finds what the entities before it came to.
-/
theorem sampling_isolation (run : C → Act (Bench C R) R) (time : Value) :
    (∀ sources labels part extractor instrument (b b' : Bench C R) k,
      listed sources labels part extractor instrument b = (.returned k, b') →
        ∃ sets, Act.collect sources
            (fun n => labels n >>= fun t => Act.ofExcept (AttributeSet.of? t)) b =
              (.returned sets, b') ∧
          sets.length = sources.length ∧
          Isolates (interpret run) time k (sourceSampler run part extractor instrument)
            (sources.zip sets)) ∧
    (∀ readers extractor labelKey instrument, readers.length = 2 →
      Isolates (interpret run) time (.dual readers extractor labelKey instrument)
        (categorySampler run extractor instrument) (categories labelKey readers)) ∧
    ∀ callbacks k E (s : EntitySampler (Bench C R) E) entities,
      (∀ sink, callbacks k sink = sampleEntities s.beside sink entities) →
        Isolates callbacks time k s entities := by
  refine ⟨?_, ?_, fun callbacks k E s entities hk => isolates_of_samples hk time⟩
  · intro sources labels part extractor instrument b b' k h
    obtain ⟨cache, b₁, hcache, hk⟩ := returned_of_bind h
    cases hk
    obtain ⟨sets, hsets, hlength, hpairs⟩ := AttributeCache.pairs_of_build hcache
    refine ⟨sets, hsets, hlength, ?_⟩
    rw [← hpairs]
    exact isolates_of_samples (interpret_listed run cache part extractor instrument) time
  · intro readers extractor labelKey instrument h
    exact isolates_of_samples (interpret_dual run h extractor labelKey instrument) time

/-- An entity that gives an answer when it is read. -/
def answering : Except Failure Value → Source Unit
  | .ok v => .entity .null .null (.value v)
  | .error f => .entity .null .null (.failing f)

/-- Labels a source with its number. -/
def numberLabel (n : Nat) : Act (Bench Unit Unit) (Table Value) := return [("number", .int n)]

def pool : Instrument := ⟨"pool", "By", ""⟩

def poolSampler : EntitySampler (Bench Unit Unit) Nat :=
  sourceSampler (fun _ => Act.give ()) .usage .whole "pool"

/-- The callback of some entities that are known, and labelled, by their numbers. -/
def poolCallback (count : Nat) : Callback Unit :=
  .listed ⟨(List.range count).map fun n => (n, { entries := [("number", .int n)] })⟩ .usage .whole
    "pool"

theorem reading_of_answering {a : Except Failure Value} {n : Nat} {b : Bench Unit Unit}
    (h : b.source n = answering a) : poolSampler.reading n b = (Outcome.ofExcept a, b) := by
  show ((Act.ofExcept ((b.source n).part .usage) >>= fun r => answer (fun _ => Act.give ()) r) >>=
    fun v => Act.ofExcept (.ok v)) b = _
  rw [h]
  cases a <;> rfl

/-- The answers of entities can be had, unless one is no ordinary failure. -/
theorem readable_of_answering {answers : List (Except Failure Value)}
    (h : ∀ f, .error f ∈ answers → f.isOrdinary = true) : poolSampler.Readable
      (fun b => b.sources = answers.map answering ∧ LogsSafely b) (List.range answers.length) where
  safe _ hb := hb.2
  logged _ _ hb hc := ⟨hb.1, hc⟩
  shown _ _ b hb := ⟨_, b, rfl, hb⟩
  read n hn b hb := by
    rw [List.mem_range] at hn
    have hsource : b.source n = answering answers[n] := by simp [source, hb.1, hn]
    have hreading := reading_of_answering hsource
    refine ⟨answers[n], b, ?_, hb⟩
    cases ha : answers[n] with
    | ok v => exact caught_of_returned (hreading.trans (by rw [ha]; rfl))
    | error f =>
      have hmem : .error f ∈ answers := ha ▸ List.getElem_mem hn
      exact caught_of_ordinary (hreading.trans (by rw [ha]; rfl)) (h f hmem)

/-- A bench of entities that give some answers. Warnings are not logged. -/
def ofAnswers (answers : List (Except Failure Value)) : Bench Unit Unit :=
  { sources := answers.map answering, channel := { level := 40 } }

/-- Six answers, of which the first and the fifth are measurements. -/
def mixedAnswers : List (Except Failure Value) :=
  [.ok (.int 1), .ok (.float .notANumber), .error .readingNaN, .ok (.text "2"), .ok (.float .one),
    .ok (.int (-1))]

theorem sampling_isolation_of_mixed :
    ∃ number b,
      listed (List.range 6) numberLabel .usage .whole "pool" (ofAnswers mixedAnswers) =
        (.returned (poolCallback 6), ofAnswers mixedAnswers) ∧
      register "pool" 0 pool (some (poolCallback 6)) (ofAnswers mixedAnswers) =
        (.returned number, b) ∧
      (Collection.collect (interpret fun _ => Act.give ()) .null b).1 =
        .returned [⟨"pool", .null, .float .one, [("number", .int 0)]⟩,
          ⟨"pool", .null, .float .one, [("number", .int 4)]⟩] := by
  have hlist : listed (List.range 6) numberLabel .usage .whole "pool" (ofAnswers mixedAnswers) =
    (.returned (poolCallback 6), ofAnswers mixedAnswers) := rfl
  obtain ⟨hlisted, -, -⟩ := sampling_isolation (C := Unit) (R := Unit) (fun _ => Act.give ()) .null
  obtain ⟨sets, hsets, -, hisolates⟩ := hlisted _ _ _ _ _ _ _ _ hlist
  cases hsets
  have hemits := hisolates.emits "pool" 0 pool 0 (ofAnswers mixedAnswers) _ rfl rfl
  have hordinary : ∀ f, .error f ∈ mixedAnswers → f.isOrdinary = true := by
    simp [mixedAnswers]
    rfl
  obtain ⟨⟨readings, b', hsurvey, -, hfinds⟩, -⟩ := hisolates.finds _ _ _ _ _
    (readable_of_answering hordinary) (by exact ⟨rfl, nofun⟩) hemits
  cases hsurvey
  have hfound := hfinds (by decide +kernel)
  refine ⟨_, _, hlist, rfl, ?_⟩
  rw [hfound.collected _ _ [] [] 0 rfl (by exact rfl) (by exact rfl)]
  have hone : (Value.int 1).measured? = some .one := by decide +kernel
  have hfloat : (Value.float .one).measured? = some .one := by decide +kernel
  have hnan : (Value.float .notANumber).measured? = none := by decide +kernel
  have hmark : (Value.int (-1)).measured? = none := rfl
  have htext : (Value.text "2").measured? = none := rfl
  simp [recordsOf, recordOf, hone, hfloat, hnan, hmark, htext, Instrument.samples, pool, List.range,
    List.range.loop]
  exact ⟨rfl, rfl⟩

/-- Three answers, each an integer. The second is too large to be recorded. -/
def largeAnswers : List (Except Failure Value) :=
  [.ok (.int 1), .ok (.int (Int.pow 10 400)), .ok (.int 3)]

/-- The answer of the third entity is a measurement, but the second entity keeps it from being
sampled. -/
theorem sampling_isolation_of_large :
    ∃ number b,
      listed (List.range 3) numberLabel .usage .whole "pool" (ofAnswers largeAnswers) =
        (.returned (poolCallback 3), ofAnswers largeAnswers) ∧
      register "pool" 0 pool (some (poolCallback 3)) (ofAnswers largeAnswers) =
        (.returned number, b) ∧
      (Act.caught (poolSampler.reading 2) b).1 = .returned (.ok (.int 3)) ∧
      (Value.int 3).measured?.isSome = true ∧
      (Collection.collect (interpret fun _ => Act.give ()) .null b).1 =
        .returned [⟨"pool", .null, .float .one, [("number", .int 0)]⟩] := by
  have hisolates : Isolates (interpret fun _ => Act.give ()) .null (poolCallback 3) poolSampler _ :=
    isolates_of_samples (interpret_listed _ _ _ _ _) .null
  have hemits := hisolates.emits "pool" 0 pool 0 (ofAnswers largeAnswers) _ rfl rfl
  have hordinary : ∀ f, .error f ∈ largeAnswers → f.isOrdinary = true := nofun
  obtain ⟨-, hcut⟩ := hisolates.finds _ _ _ _ _ (readable_of_answering hordinary)
    (by exact ⟨rfl, nofun⟩) hemits
  obtain ⟨b', -, hfound⟩ := hcut [_] 1 _ [_] rfl [.ok (.int 1)] _ (.ok (.int (Int.pow 10 400))) _
    rfl (by decide +kernel) rfl (by decide +kernel)
  refine ⟨_, _, rfl, rfl, rfl, by decide +kernel, ?_⟩
  rw [hfound.collected _ _ [] [] 0 rfl (by exact rfl) (by exact rfl)]
  have hone : (Value.int 1).measured? = some .one := by decide +kernel
  simp [recordsOf, recordOf, hone, Instrument.samples, pool]

end Bench

end AspectAgent
