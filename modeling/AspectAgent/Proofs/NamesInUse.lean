import AspectAgent.Proofs.Emitting

/-!
# Names in use

A registry, the instruments it has made and the meter on which they are installed are changed by
different operations. What holds them together is that a registry gives a name to a number if and
only if the instrument of this number was made by the registry under the name and is active. Numbers
are given out once, so that an instrument which is closed late cannot take the name from a
successor.
-/

namespace AspectAgent

namespace Metering

variable {K : Type} {m : Metering K} {registry number n : Nat} {name : String} {i : Instrument}
  {k : K}

/-- The instrument of a number was made by a registry under a name, and is active. -/
def ActiveUnder (m : Metering K) (registry : Nat) (name : String) (number : Nat) : Prop :=
  ∃ r, m.registered[number]? = some r ∧ r.active = true ∧ r.registry = some registry ∧
    r.instrument.name = name

/-- The active instruments, in the order in which they were registered. -/
def activeOnes (m : Metering K) : List (RegisteredInstrument K) :=
  m.registered.filter RegisteredInstrument.active

/-- An instrument that has been made and closed. -/
def IsClosed (m : Metering K) (number : Nat) : Prop :=
  ∃ r, m.registered[number]? = some r ∧ r.active = false

/-- An on-demand meter and registries without instruments. -/
structure Unused (m : Metering K) : Prop where
  onDemand : m.meter.style = .onDemand
  instruments : m.meter.instruments = []
  registered : m.registered = []
  registries : ∀ t ∈ m.registries, t = []

/-- All instruments were made by registries and are installed on an on-demand meter, each at the
place that is its number; the names in use are those of the active ones. -/
structure InStep (m : Metering K) : Prop where
  onDemand : m.meter.style = .onDemand
  installed : m.meter.instruments =
    m.registered.mapIdx fun n r => ⟨r.instrument, [.registered n]⟩
  made : ∀ r ∈ m.registered, ∃ registry, r.registry = some registry
  named : ∀ registry name n, m.find? registry name = some n ↔ m.ActiveUnder registry name n

/-! ## Names and numbers after a change -/

private theorem names_modify {m m' : Metering K} {f : Table Nat → Table Nat}
    (h : m'.registries = m.registries.modify registry f) (hlt : registry < m.registries.length)
    (g : Nat) : m'.names g = if registry = g then f (m.names g) else m.names g := by
  unfold names
  rw [h, List.getD_eq_getElem?_getD, List.getD_eq_getElem?_getD, List.getElem?_modify]
  by_cases hg : registry = g
  · subst hg
    simp [hlt]
  · simp [hg]

theorem lt_of_find? (h : m.find? registry name = some number) :
    registry < m.registries.length := by
  refine Nat.lt_of_not_le fun hle => ?_
  have hnames : m.names registry = [] := by
    rw [names, List.getD_eq_getElem?_getD, List.getElem?_eq_none hle]
    rfl
  rw [find?, hnames] at h
  cases h

/-- Forgetting an instrument takes a name from it only if the name is its own. -/
theorem find?_forget (m : Metering K) (registry number : Nat) (name : String) (g : Nat)
    (name' : String) :
    (m.forget registry number name).find? g name' =
      if m.find? registry name = some number ∧ registry = g ∧ name = name' then none
      else m.find? g name' := by
  unfold forget
  by_cases hown : m.find? registry name = some number
  · rw [if_pos hown, find?, names_modify rfl (lt_of_find? hown)]
    by_cases hg : registry = g
    · subst hg
      rw [if_pos rfl, Table.get?_remove]
      simp only [hown, true_and]
      rfl
    · simp [hg, find?]
  · simp [hown]

@[simp] theorem registered_forget (m : Metering K) (registry number : Nat) (name : String) :
    (m.forget registry number name).registered = m.registered := by
  unfold forget
  split <;> rfl

@[simp] theorem meter_forget (m : Metering K) (registry number : Nat) (name : String) :
    (m.forget registry number name).meter = m.meter := by
  unfold forget
  split <;> rfl

@[simp] theorem registered_close (m : Metering K) (number : Nat) :
    (m.close number).registered =
      m.registered.modify number fun r => { r with active := false } := by
  unfold close
  split
  · rename_i hnone
    exact (List.modify_eq_self (List.getElem?_eq_none_iff.mp hnone)).symm
  · dsimp only
    split
    · rfl
    · exact registered_forget _ _ _ _

@[simp] theorem meter_close (m : Metering K) (number : Nat) : (m.close number).meter = m.meter := by
  unfold close
  split
  · rfl
  · dsimp only
    split
    · rfl
    · exact meter_forget _ _ _ _

/-- Closing an instrument changes of all instruments only that this one is active. -/
theorem activeUnder_close :
    (m.close number).ActiveUnder registry name n ↔ n ≠ number ∧ m.ActiveUnder registry name n := by
  unfold ActiveUnder
  rw [registered_close]
  simp only [List.getElem?_modify]
  by_cases hn : number = n
  · subst hn
    cases m.registered[number]? <;> simp
  · simp [hn, Ne.symm hn]

theorem mem_registered_close {r : RegisteredInstrument K}
    (h : r ∈ (m.close number).registered) :
    ∃ r' ∈ m.registered, r.callback = r'.callback ∧ r.registry = r'.registry := by
  rw [registered_close] at h
  obtain ⟨n, hn⟩ := List.getElem?_of_mem h
  rw [List.getElem?_modify] at hn
  obtain ⟨r', hr', rfl⟩ := Option.map_eq_some_iff.mp hn
  refine ⟨r', List.mem_of_getElem? hr', ?_⟩
  split <;> exact ⟨rfl, rfl⟩

theorem isClosed_close (h : number < m.registered.length) :
    (m.close number).IsClosed n ↔ m.IsClosed n ∨ n = number := by
  unfold IsClosed
  rw [registered_close]
  simp only [List.getElem?_modify]
  by_cases hn : number = n
  · subst hn
    simp [List.getElem?_eq_getElem h]
  · simp [hn, Ne.symm hn]

theorem IsClosed.close (h : m.IsClosed n) (number : Nat) : (m.close number).IsClosed n := by
  by_cases hlt : number < m.registered.length
  · exact (isClosed_close hlt).mpr (.inl h)
  · unfold IsClosed
    rw [registered_close, List.modify_eq_self (Nat.le_of_not_lt hlt)]
    exact h

theorem style_provideWith (meter : Meter K) (i : Instrument) (xs : List (Installed K)) :
    (meter.provideWith i xs).2.style = meter.style := by
  have hinstall : ∀ (place : Nat) (made : Meter K),
      (xs.foldl (fun m x => m.install place x) made).style = made.style := by
    intro place
    induction xs with
    | nil => exact fun made => rfl
    | cons x rest ih => exact fun made => ih (made.install place x)
  have hprovide : (meter.provide i).2.style = meter.style := by
    unfold Meter.provide
    split <;> rfl
  exact (hinstall _ (meter.provide i).2).trans hprovide

/-- The instrument of the next number, made by a registry and installed on the meter. -/
def added (m : Metering K) (registry : Nat) (i : Instrument) (k : K) : Metering K where
  meter := (m.meter.provideWith i [.registered m.registered.length]).2
  registered := m.registered ++ [⟨i, k, some registry, true⟩]
  registries := m.registries.modify registry fun t => t.put i.name m.registered.length

theorem register_of_free (h : m.find? registry i.name = none)
    (hgranted : m.meter.refusal? i = none) :
    m.register registry i (some k) = .ok (m.registered.length, m.added registry i k) := by
  rw [register, h]
  show (m.meter.create i [.registered m.registered.length] >>= _) = _
  rw [Meter.create_of_granted hgranted]
  rfl

theorem register_of_refused {f : Failure} (h : m.find? registry i.name = none)
    (hrefused : m.meter.refusal? i = some f) : m.register registry i (some k) = .error f := by
  rw [register, h]
  show (m.meter.create i [.registered m.registered.length] >>= _) = _
  rw [Meter.create, hrefused]
  rfl

theorem register_of_taken (h : m.find? registry i.name = some number) :
    m.register registry i (some k) = .error (.duplicateInstrument i.name) := by
  rw [register, h]
  rfl

theorem find?_added (hlt : registry < m.registries.length) (i : Instrument) (k : K) (g : Nat)
    (name : String) :
    (m.added registry i k).find? g name =
      if registry = g ∧ i.name = name then some m.registered.length else m.find? g name := by
  rw [find?, names_modify rfl hlt]
  by_cases hg : registry = g
  · rw [if_pos hg, Table.get?_put]
    simp only [hg, true_and]
    rfl
  · simp [hg, find?]

theorem activeUnder_added (m : Metering K) (registry : Nat) (i : Instrument) (k : K) (g : Nat)
    (name : String) (n : Nat) :
    (m.added registry i k).ActiveUnder g name n ↔
      m.ActiveUnder g name n ∨ n = m.registered.length ∧ registry = g ∧ i.name = name := by
  have hlt : ∀ r, m.registered[n]? = some r → n < m.registered.length :=
    fun r hr => (List.getElem?_eq_some_iff.mp hr).1
  unfold ActiveUnder added
  dsimp only
  rcases Nat.lt_trichotomy n m.registered.length with hn | hn | hn
  · simp [List.getElem?_append_left hn, Nat.ne_of_lt hn]
  · subst hn
    simp
  · have hnone : (m.registered ++ [⟨i, k, some registry, true⟩])[n]? = none :=
      List.getElem?_eq_none (by rw [List.length_append]; exact hn)
    have hnone' : m.registered[n]? = none := List.getElem?_eq_none (Nat.le_of_lt hn)
    simp [hnone, hnone', Nat.ne_of_gt hn]

theorem IsClosed.added (h : m.IsClosed n) (registry : Nat) (i : Instrument) (k : K) :
    (m.added registry i k).IsClosed n := by
  obtain ⟨r, hr, hclosed⟩ := h
  have hlt : n < m.registered.length := (List.getElem?_eq_some_iff.mp hr).1
  exact ⟨r, (List.getElem?_append_left hlt).trans hr, hclosed⟩

/-! ## What keeps them in step -/

namespace InStep

theorem of_unused (h : m.Unused) : m.InStep where
  onDemand := h.onDemand
  installed := by rw [h.instruments, h.registered]; rfl
  made := by rw [h.registered]; exact nofun
  named registry name n := by
    have hnames : m.names registry = [] := by
      rw [names, List.getD_eq_getElem?_getD]
      cases ht : m.registries[registry]? with
      | none => rfl
      | some t => exact h.registries t (List.mem_of_getElem? ht)
    simp [find?, ActiveUnder, hnames, h.registered]

theorem added (h : m.InStep) (hlt : registry < m.registries.length)
    (hfree : m.find? registry i.name = none) (k : K) : (m.added registry i k).InStep where
  onDemand := by
    show (m.meter.provideWith i _).2.style = _
    rw [style_provideWith, h.onDemand]
  installed := by
    show (m.meter.provideWith i _).2.instruments = List.mapIdx _ (m.registered ++ _)
    rw [instruments_provideWith h.onDemand, h.installed, List.mapIdx_append]
    simp
  made r hr := by
    rcases List.mem_append.mp hr with hr | hr
    · exact h.made r hr
    · rw [List.mem_singleton.mp hr]
      exact ⟨registry, rfl⟩
  named g name n := by
    rw [find?_added hlt, activeUnder_added, ← h.named]
    by_cases hnew : registry = g ∧ i.name = name
    · obtain ⟨rfl, rfl⟩ := hnew
      simp [hfree, eq_comm]
    · simp [hnew]

theorem find?_close (h : m.InStep) (number g : Nat) (name : String) :
    (m.close number).find? g name =
      if m.find? g name = some number then none else m.find? g name := by
  cases hr : m.registered[number]? with
  | none =>
    have hno : m.find? g name ≠ some number := by
      intro hfound
      obtain ⟨r, hr', -⟩ := (h.named g name number).mp hfound
      rw [hr] at hr'
      cases hr'
    rw [if_neg hno, Metering.close, hr]
  | some r =>
    obtain ⟨registry, hregistry⟩ := h.made r (List.mem_of_getElem? hr)
    have hforget : (m.close number).find? g name =
        if m.find? registry r.instrument.name = some number ∧ registry = g ∧
          r.instrument.name = name then none else m.find? g name := by
      rw [Metering.close, hr]
      simp only [hregistry]
      exact find?_forget _ _ _ _ _ _
    -- the name, if it is taken away, is the one under which the instrument was made
    have hown : (m.find? registry r.instrument.name = some number ∧ registry = g ∧
        r.instrument.name = name) ↔ m.find? g name = some number := by
      constructor
      · rintro ⟨hfound, rfl, rfl⟩
        exact hfound
      · intro hfound
        obtain ⟨r', hr', -, hg, hname⟩ := (h.named g name number).mp hfound
        cases hr.symm.trans hr'
        cases hregistry.symm.trans hg
        exact ⟨hname ▸ hfound, rfl, hname⟩
    rw [hforget]
    simp only [hown]

/-- A registry that still gives the name to the instrument frees it; one that gives it to a
successor does not. -/
theorem close (h : m.InStep) (number : Nat) : (m.close number).InStep where
  onDemand := by rw [meter_close]; exact h.onDemand
  installed := by
    rw [meter_close, registered_close, h.installed]
    refine List.ext_getElem? fun n => ?_
    simp only [List.getElem?_mapIdx, List.getElem?_modify]
    cases m.registered[n]? with
    | none => rfl
    | some r => by_cases hn : number = n <;> simp [hn]
  made r hr := by
    obtain ⟨r', hr', -, hregistry⟩ := mem_registered_close hr
    exact hregistry ▸ h.made r' hr'
  named g name n := by
    rw [activeUnder_close, ← h.named, h.find?_close]
    split
    · rename_i hfound
      simp [hfound, eq_comm]
    · rename_i hother
      constructor
      · intro hfound
        exact ⟨fun hn => hother (hn ▸ hfound), hfound⟩
      · exact And.right

/-- To close an instrument again, or when its name has gone to another, changes nothing. -/
theorem close_of_closed (h : m.InStep) (hclosed : m.IsClosed number) : m.close number = m := by
  obtain ⟨r, hr, hinactive⟩ := hclosed
  obtain ⟨registry, hregistry⟩ := h.made r (List.mem_of_getElem? hr)
  have hsame : m.registered.modify number (fun r => { r with active := false }) = m.registered := by
    refine List.ext_getElem? fun n => ?_
    rw [List.getElem?_modify]
    by_cases hn : number = n
    · subst hn
      simp [hr, ← hinactive]
    · simp [hn]
  have hother : m.find? registry r.instrument.name ≠ some number := by
    intro hfound
    obtain ⟨r', hr', hactive, -⟩ := (h.named registry _ number).mp hfound
    cases hr.symm.trans hr'
    rw [hinactive] at hactive
    cases hactive
  rw [Metering.close, hr]
  simp only [hregistry, hsame]
  exact if_neg hother

end InStep

/-- To deregister a name is to close the instrument that has it, if there is one. -/
theorem deregister_eq (m : Metering K) (registry : Nat) (name : String) :
    (m.deregister registry name).2 = m ∨
      ∃ number, (m.deregister registry name).2 = m.close number := by
  unfold deregister
  split
  · exact .inl rfl
  · exact .inr ⟨_, rfl⟩

end Metering

end AspectAgent
