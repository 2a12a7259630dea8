import AspectAgent.Proofs.SamplingIsolation

/-!
# Two categories as two entities

There is a loop of its own for the sampling of two categories. It does what the sampling of a list
of entities does whose entities are the names of the two categories, each labelled with itself and
read by the reader that has its name: the same readings, the same reports, the same calls of the
sink, and the same failures that escape, so that neither loop can fall behind the other.
-/

namespace AspectAgent

open Act

namespace Sampling

variable {σ E : Type}

/-- The names of categories as entities, each of which is read by the reader of its name. -/
def byName (instrument : String) (readers : Table (Act σ Value))
    (extract : Value → Except Failure Value) : EntitySampler σ String where
  instrument := instrument
  shown category := return Text.quoted category
  read category :=
    match readers.get? category with
    | some reader => reader
    | none => Act.raise (.missingKey category)
  extract := extract

/-- Labels a category with its name. -/
def categoryLabel (labelKey category : String) : Act σ (Table Value) :=
  return [(labelKey, .text category)]

/-- The sampler of two categories, beside which something is recorded. -/
def DualSampler.beside (d : DualSampler σ) : DualSampler (Recorder σ) where
  labelKey := d.labelKey
  instrument := d.instrument
  first := (d.first.1, Recorder.beside d.first.2)
  second := (d.second.1, Recorder.beside d.second.2)
  extract := d.extract

/-- A sink whose calls are noted, whatever comes of them. -/
def noting (sink : Sink σ) : Sink (Recorder σ) := fun v labels => do
  Recorder.asIs v labels
  Recorder.beside (sink v labels)

/-- Some cycles of a callback, one after the other. Each tells which failure escaped from it, if
any, and how it called the sink; the next one is run in any case. -/
def cycles (count : Nat) (callback : Sink (Recorder σ) → Act (Recorder σ) Unit) (sink : Sink σ) :
    Act σ (List (Option Failure × List Measurement)) :=
  Act.collect (List.range count) fun _ => Recorder.run (callback (noting sink))

/-- The cache of some categories can be made at once. -/
theorem build_categories (labelKey : String) (categories : List String) (st : σ) :
    AttributeCache.build (categoryLabel labelKey) categories st =
      (.returned ⟨categories.map fun c => (c, { entries := [(labelKey, .text c)] })⟩, st) := by
  have hcollect : ∀ categories : List String,
      Act.collect categories (fun c => do
        let set ← Act.ofExcept (AttributeSet.of? (← categoryLabel labelKey c))
        return (c, set)) st =
          (.returned (categories.map fun c => (c, { entries := [(labelKey, .text c)] })), st) := by
    intro categories
    induction categories with
    | nil => rfl
    | cons c rest ih =>
      rw [collect_cons, bind_of_returned (by rfl), bind_of_returned ih]
      rfl
  rw [AttributeCache.build, bind_of_returned (hcollect categories)]
  rfl

variable [HasChannel σ]

/-- What a category comes to is what an entity comes to that has the same reading, the same printed
form and the same label. -/
theorem DualSampler.sample_eq (d : DualSampler σ) {s : EntitySampler σ E} {e e' : E}
    (hinstrument : s.instrument = d.instrument) (hextract : s.extract = d.extract)
    (hfirst : s.read e = d.first.2 ∧ s.shown e = pure (Text.quoted d.first.1))
    (hsecond : s.read e' = d.second.2 ∧ s.shown e' = pure (Text.quoted d.second.1))
    (sink : Sink σ) :
    d.sample sink = sampleEntities s sink
      [(e, { entries := [(d.labelKey, .text d.first.1)] }),
        (e', { entries := [(d.labelKey, .text d.second.1)] })] := by
  have hone := d.sampleCategory_eq hinstrument hextract hfirst.1 hfirst.2 sink
  have htwo := d.sampleCategory_eq hinstrument hextract hsecond.1 hsecond.2 sink
  rw [DualSampler.sample, hone, htwo, ← sampleEntities_append]
  rfl

/-- **Two categories.** Take any two readers under different names, any way to find the number in a
reading, any key for the label and any name of the instrument. Then the sampler of the two
categories can be made, and so can the cache of the two names as entities. Whatever the sink does,
the two callbacks are the same action: the readers are run in the same order, and in every state,
whatever each comes to, the sink is called alike, the same is reported and the same failure escapes.
So in any number of cycles each tells the same, and the states that they leave are the same. -/
theorem dual_eq_listed (instrument labelKey : String) (readers : Table (Act σ Value))
    (extract : Value → Except Failure Value) (hcount : readers.length = 2)
    (hkeys : readers.keys.Nodup) :
    ∃ (d : DualSampler σ) (cache : AttributeCache String),
      dual? labelKey instrument readers extract = .ok d ∧
      (∀ st : σ, AttributeCache.build (categoryLabel labelKey) readers.keys st =
        (.returned cache, st)) ∧
      (∀ sink : Sink σ,
        d.sample sink = sampleEntities (byName instrument readers extract) sink cache.pairs) ∧
      ∀ (sink : Sink σ) (count : Nat),
        cycles count d.beside.sample sink =
          cycles count
            (fun noted =>
              sampleEntities (byName instrument readers extract).beside noted cache.pairs)
            sink := by
  obtain ⟨⟨c, read⟩, ⟨c', read'⟩, rfl⟩ : ∃ e e', readers = [e, e'] := by
    match readers, hcount with
    | [e, e'], _ => exact ⟨e, e', rfl⟩
  have hne : c ≠ c' := by simpa [Table.keys] using hkeys
  let d : DualSampler σ := ⟨labelKey, instrument, (c, read), (c', read'), extract⟩
  let s := byName instrument [(c, read), (c', read')] extract
  have hread : s.read c = read := by simp [s, byName, Table.get?]
  have hread' : s.read c' = read' := by simp [s, byName, Table.get?, hne]
  refine ⟨d, _, rfl, build_categories labelKey _, ?_, ?_⟩
  · exact fun sink => d.sample_eq (s := s) rfl rfl ⟨hread, rfl⟩ ⟨hread', rfl⟩ sink
  · intro sink count
    have hbeside := d.beside.sample_eq (s := s.beside) rfl rfl
      ⟨congrArg Recorder.beside hread, rfl⟩ ⟨congrArg Recorder.beside hread', rfl⟩ (noting sink)
    exact congrArg (fun cycle => Act.collect (List.range count) fun _ => Recorder.run cycle) hbeside

/-- Diagnostics, and what readers are going to find, one after the other. -/
structure Forecast where
  channel : LogChannel := {}
  results : List (Except Failure Value)

instance : HasChannel Forecast where
  channel := Forecast.channel
  setChannel c f := { f with channel := c }

/-- Finds what comes next. -/
def Forecast.next : Act Forecast Value := fun f =>
  match f.results with
  | [] => (.unfinished, f)
  | result :: rest => (Outcome.ofExcept result, { f with results := rest })

/-- An infinite number of either sign. -/
def infinite (negative : Bool) : Value := .float (.ofSigned negative Binary64.infinityBits)

/-- A sink that refuses negative numbers. -/
def positiveOnly : Sink Forecast := fun v _ =>
  match v with
  | .float x => if x.isNegative then Act.raise (.textNotConvertible "-inf") else .give ()
  | _ => .give ()

/-- The heap and the rest, of which each finds what comes next. -/
def nextReaders : Table (Act Forecast Value) :=
  [("heap", Forecast.next), ("non_heap", Forecast.next)]

/-- In the first cycle the second category has no usable reading, which is reported. In the second
cycle the sink refuses that of the first, and the other is not read. -/
theorem dual_eq_listed_of_forecast :
    (nextReaders.length = 2 ∧ nextReaders.keys.Nodup) ∧
      ∃ cache : AttributeCache String, ∃ after : Forecast,
        cycles 2
            (fun noted => sampleEntities (byName "memory" nextReaders .ok).beside noted cache.pairs)
            positiveOnly { results := [.ok (infinite false), .error .readingNaN,
              .ok (infinite true)] } =
          (.returned
            [(none, [⟨infinite false, [("type", .text "heap")]⟩]),
              (some (.textNotConvertible "-inf"), [⟨infinite true, [("type", .text "heap")]⟩])],
            after) ∧
        after.channel.passedOn = [faultRecord "memory" "'non_heap'" .readingNaN] := by
  have hcount : nextReaders.length = 2 := rfl
  have hkeys : nextReaders.keys.Nodup := by decide
  obtain ⟨d, cache, hd, -, -, hcycles⟩ :=
    dual_eq_listed "memory" "type" nextReaders .ok hcount hkeys
  refine ⟨⟨hcount, hkeys⟩, cache, ?_⟩
  rw [← hcycles]
  cases hd
  exact ⟨_, rfl, rfl⟩

end Sampling

end AspectAgent
