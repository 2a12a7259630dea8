import AspectAgent.Proofs.RegisteringInTurn
import Mathlib.Data.List.Nodup

/-!
# Observers of memory

Each measured field of a memory reading has an observer for the pools and one for the heap and the
rest. The names of the observers differ, so a registry without instruments takes all of them, and
they become its active instruments in their order. Their callbacks hold the labels that the pools
have when the observers are registered; no source is read for that.
-/

namespace AspectAgent

open Act

namespace Metering

variable {K : Type} {m : Metering K}

theorem Unused.find?_eq_none (h : m.Unused) (registry : Nat) (name : String) :
    m.find? registry name = none := by
  refine Option.eq_none_iff_forall_ne_some.mpr fun n hn => ?_
  obtain ⟨r, hr, -⟩ := ((InStep.of_unused h).named registry name n).mp hn
  rw [h.registered] at hr
  cases hr

theorem Unused.addRegistry (h : m.Unused) : m.addRegistry.2.Unused where
  onDemand := h.onDemand
  instruments := h.instruments
  registered := h.registered
  registries t ht := by
    rcases List.mem_append.mp ht with ht | ht
    · exact h.registries t ht
    · exact List.mem_singleton.mp ht

end Metering

namespace RuntimeMemory

/-- What an observer looks at: each of the pools, or the heap and the rest. -/
inductive Scope where
  | pools
  | totals
  deriving DecidableEq, Repr

/-- The observers in the order of their registration, each of a field in a scope. -/
def observers : List (Scope × Measure) :=
  measures.map (Scope.pools, ·) ++ measures.map (Scope.totals, ·)

/-- There is an observer of each measured field in each scope. -/
theorem mem_observers {s : Scope} {m : Measure} : (s, m) ∈ observers ↔ m ∈ measures := by
  cases s <;> simp [observers]

/-- The labels of a pool, by its name and its type. -/
def labels (name type : Value) : Table Value :=
  [(poolKey, name), (typeKey, .text (memoryType type))]

theorem of?_labels {name : Value} (h : AttributeSet.unhashable? name = none) (type : Value) :
    AttributeSet.of? (labels name type) = .ok { entries := labels name type } := by
  show AttributeSet.checked { entries := labels name type } = _
  have hnone : (labels name type).findSome? (fun e => AttributeSet.unhashable? e.2) = none := by
    rw [labels, List.findSome?_cons, h]
    rfl
  rw [AttributeSet.checked, hnone]

/-- The heap and the rest, with the parts of the memory that tell of them. -/
def totalsOf (memory : Nat) : Table (Nat × Part) :=
  [(heap, (memory, .heap)), (nonHeap, (memory, .nonHeap))]

namespace Scope

/-- What stands in the name of an instrument before the end that tells its field. -/
def joint : Scope → String
  | .pools => ".pool."
  | .totals => "."

def instrument (stem : String) : Scope → Measure → Instrument
  | .pools => poolInstrument stem
  | .totals => totalInstrument stem

/-- The callback of an observer, where the labels of the pools are given. -/
def callback {C : Type} (stem : String) (pools : List Nat) (memory : Nat)
    (labelsOf : Nat → Table Value) : Scope → Measure → Callback C
  | .pools, m => .listed ⟨pools.map fun n => (n, { entries := labelsOf n })⟩ .usage (.field m.field)
      (poolInstrument stem m).name
  | .totals, m => .dual (totalsOf memory) (.field m.field) typeKey (totalInstrument stem m).name

theorem name_instrument (stem : String) (s : Scope) (m : Measure) :
    (s.instrument stem m).name = stem ++ (s.joint ++ m.suffix) := by
  cases s <;> exact String.append_assoc

end Scope

/-- No two observers have one name, whatever their names start with. -/
theorem nodup_names (stem : String) :
    (observers.map fun x => (x.1.instrument stem x.2).name).Nodup := by
  have hnames : (observers.map fun x => (x.1.instrument stem x.2).name) =
      (observers.map fun x => x.1.joint ++ x.2.suffix).map (stem ++ ·) := by
    rw [List.map_map]
    exact List.map_congr_left fun x _ => x.1.name_instrument stem x.2
  have hends : (observers.map fun x => x.1.joint ++ x.2.suffix).Nodup := by decide +kernel
  rw [hnames]
  exact hends.map fun _ _ h => (String.append_right_inj stem).mp h

theorem registerObservers_eq {σ K : Type} [HasMetering σ K] [HasChannel σ] (registry : Nat)
    (stem : String) (make : Scope → MemoryField → String → Act σ K) :
    registerObservers registry stem (make .pools) (make .totals) =
      Act.collect observers (fun x => do
        let k ← make x.1 x.2.field (x.1.instrument stem x.2).name
        Metering.registering registry (x.1.instrument stem x.2) (some k)) := by
  rw [observers, collect_append, collect_map, collect_map]
  rfl

end RuntimeMemory

/-- A source that can be labelled as a pool: it has a name, which can be part of a key, and a
type. -/
structure Source.Labelled {C : Type} (s : Source C) (name type : Value) : Prop where
  named : s.value? "name" = some name
  hashable : AttributeSet.unhashable? name = none
  typed : s.value? "type" = some type

/-- A source that tells of the heap and of the rest. -/
structure Source.HasTotals {C : Type} (s : Source C) : Prop where
  heap : ∃ r, s.part .heap = .ok r
  nonHeap : ∃ r, s.part .nonHeap = .ok r

namespace Bench

open RuntimeMemory

variable {C R : Type} {b : Bench C R} {registry : Nat} {pools : List Nat} {memory : Nat}
  {name type : Nat → Value}

/-! ## Making the callbacks -/

/-- Makes the callback of an observer. -/
def makeCallback (pools : List Nat) (memory : Nat) :
    Scope → MemoryField → String → Act (Bench C R) (Callback C)
  | .pools, f, instrument => listed pools poolLabels .usage (.field f) instrument
  | .totals, f, instrument => memoryCallback memory (.field f) instrument

theorem poolLabels_apply {n : Nat} (h : (b.source n).Labelled (name n) (type n)) :
    poolLabels n b = (.returned (labels (name n) (type n)), b) := by
  rw [poolLabels, bind_of_returned (read_apply b), h.named, h.typed]
  rfl

theorem build_poolLabels (h : ∀ n ∈ pools, (b.source n).Labelled (name n) (type n)) :
    AttributeCache.build poolLabels pools b =
      (.returned ⟨pools.map fun n => (n, { entries := labels (name n) (type n) })⟩, b) := by
  have hpairs : Settles (· = b) (Act.collect pools fun n => do
        let set ← Act.ofExcept (AttributeSet.of? (← poolLabels n))
        return (n, set))
      (.ok (pools.map fun n => (n, { entries := labels (name n) (type n) }))) := by
    refine settles_collect pools fun n hn => ?_
    rintro b rfl
    refine ⟨b, ?_, rfl⟩
    rw [bind_of_returned (poolLabels_apply (h n hn)), of?_labels (h n hn).hashable]
    rfl
  obtain ⟨_, hrun, rfl⟩ := hpairs b rfl
  exact bind_of_returned hrun

theorem makeCallback_apply (hpools : ∀ n ∈ pools, (b.source n).Labelled (name n) (type n))
    (hmemory : (b.source memory).HasTotals) (stem : String) (s : Scope) (m : Measure) :
    makeCallback pools memory s m.field (s.instrument stem m).name b =
      (.returned (s.callback stem pools memory (fun n => labels (name n) (type n)) m), b) := by
  cases s with
  | pools => exact bind_of_returned (build_poolLabels hpools)
  | totals =>
    obtain ⟨heap, hheap⟩ := hmemory.heap
    obtain ⟨nonHeap, hnonHeap⟩ := hmemory.nonHeap
    show memoryCallback memory _ _ b = _
    rw [memoryCallback, bind_of_returned (read_apply b), hheap, hnonHeap]
    rfl

/-! ## Registering -/

/-- The observer of a field in a scope, once it is registered. -/
def observer (stem : String) (pools : List Nat) (memory : Nat) (labelsOf : Nat → Table Value)
    (registry : Nat) (x : Scope × Measure) : RegisteredInstrument (Callback C) :=
  ⟨x.1.instrument stem x.2, x.1.callback stem pools memory labelsOf x.2, some registry, true⟩

/-- To know instruments by handles changes the handles only. -/
theorem forEach_remember (handle : String) (numbers : List Nat) (b : Bench C R) :
    ∃ handles, Act.forEach numbers (fun number =>
        Act.change fun b : Bench C R => b.remember (handle ++ b.metering.nameOf number) number) b =
      (.returned (), { b with instruments := handles }) := by
  induction numbers generalizing b with
  | nil => exact ⟨b.instruments, rfl⟩
  | cons number rest ih =>
    obtain ⟨handles, hrest⟩ := ih (b.remember (handle ++ b.metering.nameOf number) number)
    refine ⟨handles, ?_⟩
    rw [forEach_cons, bind_of_returned (change_apply _ b), hrest]
    rfl

variable (handle stem : String)

private theorem registerObservers_some (hunused : b.metering.Unused) (hsafe : LogsSafely b)
    (hlt : registry < b.metering.registries.length)
    (hpools : ∀ n ∈ pools, (b.source n).Labelled (name n) (type n))
    (hmemory : (b.source memory).HasTotals) :
    ∃ m c handles, registerObservers handle (some registry) stem pools memory b =
        (.returned (List.range 8),
          { b with metering := m, channel := c, instruments := handles }) ∧
      m.InStep ∧ c.NeverFails ∧ m.registered = observers.map
        (observer stem pools memory (fun n => labels (name n) (type n)) registry) := by
  have hmake : ∀ x ∈ observers, b.Consults
      (makeCallback pools memory x.1 x.2.field (x.1.instrument stem x.2).name)
      (.ok (x.1.callback stem pools memory (fun n => labels (name n) (type n)) x.2)) := by
    intro x _ b' hb'
    have hsource : ∀ n, b'.source n = b.source n := fun n => by rw [source, hb', source]
    exact makeCallback_apply (fun n hn => hsource n ▸ hpools n hn) (hsource memory ▸ hmemory) stem
      x.1 x.2
  obtain ⟨m, c, hrun, hm, hc, hregistered⟩ := collect_registering hmake (nodup_names stem)
    (fun x _ => hunused.find?_eq_none registry _) hlt (.of_unused hunused) hsafe
  rw [hunused.registered] at hrun hregistered
  obtain ⟨handles, hhandles⟩ := forEach_remember handle (List.range 8)
    { b with metering := m, channel := c }
  refine ⟨m, c, handles, ?_, hm, hc, hregistered⟩
  have hmade : RuntimeMemory.registerObservers registry stem (makeCallback pools memory .pools)
      (makeCallback pools memory .totals) b =
        (.returned (List.range 8), { b with metering := m, channel := c }) := by
    rw [registerObservers_eq]
    exact hrun
  exact (bind_of_returned hmade).trans (bind_of_returned hhandles)

/-- A registration of the observers returns their numbers. Nothing but the instruments, their
handles and diagnostics has changed then. -/
theorem registerObservers_apply {registry : Option Nat} (hunused : b.metering.Unused)
    (hsafe : LogsSafely b) (hregistry : ∀ g ∈ registry, g < b.metering.registries.length)
    (hpools : ∀ n ∈ pools, (b.source n).Labelled (name n) (type n))
    (hmemory : (b.source memory).HasTotals) :
    ∃ m c handles g, registerObservers handle registry stem pools memory b =
        (.returned (List.range 8),
          { b with metering := m, channel := c, instruments := handles }) ∧
      m.InStep ∧ c.NeverFails ∧ m.registered = observers.map
        (observer stem pools memory (fun n => labels (name n) (type n)) g) := by
  cases registry with
  | some g =>
    obtain ⟨m, c, handles, h⟩ := registerObservers_some handle stem hunused hsafe
      (hregistry g rfl) hpools hmemory
    exact ⟨m, c, handles, g, h⟩
  | none =>
    let b₁ : Bench C R := { b with metering := b.metering.addRegistry.2 }
    have hlt : b.metering.registries.length < b₁.metering.registries.length := by
      show _ < (b.metering.registries ++ [[]]).length
      simp
    obtain ⟨m, c, handles, h⟩ := registerObservers_some (b := b₁) handle stem
      hunused.addRegistry hsafe hlt hpools hmemory
    exact ⟨m, c, handles, b.metering.registries.length, h⟩

end Bench

end AspectAgent
