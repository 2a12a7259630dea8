import AspectAgent.Proofs.ActiveSampling

/-!
# Slotted meters

A slotted meter has one instrument for each name that has ever been given, and on each instrument a
slot. In the slot stands the instrument that was registered last under the name, whether it is still
active or not. As long as all registrations go through one registry, nothing else is active under
the name: the active instruments are each the last of their name.
-/

namespace AspectAgent

/-- The position is the last one of a name in a list. -/
def IsLast (names : List String) (name : String) (n : Nat) : Prop :=
  names[n]? = some name ∧ ∀ n', names[n']? = some name → n' ≤ n

section IsLast

variable {names : List String} {name other : String} {n n' : Nat}

theorem IsLast.unique (h : IsLast names name n) (h' : IsLast names name n') : n = n' :=
  Nat.le_antisymm (h'.2 n h.1) (h.2 n' h'.1)

theorem isLast_concat (names : List String) (name : String) :
    IsLast (names ++ [name]) name names.length := by
  refine ⟨List.getElem?_concat_length, fun n' hn' => ?_⟩
  have hlt := (List.getElem?_eq_some_iff.mp hn').1
  rw [List.length_append, List.length_singleton] at hlt
  omega

theorem IsLast.concat (h : IsLast names name n) (hne : other ≠ name) :
    IsLast (names ++ [other]) name n := by
  have hlt := (List.getElem?_eq_some_iff.mp h.1).1
  refine ⟨(List.getElem?_append_left hlt).trans h.1, fun n' hn' => ?_⟩
  rcases Nat.lt_trichotomy n' names.length with hlt' | rfl | hlt'
  · exact h.2 n' ((List.getElem?_append_left hlt').symm.trans hn')
  · rw [List.getElem?_concat_length] at hn'
    exact absurd (Option.some.inj hn') hne
  · have hnone : (names ++ [other])[n']? = none :=
      List.getElem?_eq_none (by rw [List.length_append]; exact hlt')
    rw [hnone] at hn'
    cases hn'

end IsLast

/-- A list whose elements with a property can stand at one position only. -/
theorem filter_eq_toList {α : Type} {l : List α} {p : α → Bool} {n : Nat}
    (h : ∀ i x, l[i]? = some x → p x = true → i = n) : l.filter p = (l[n]?.filter p).toList := by
  induction l generalizing n with
  | nil => simp
  | cons x rest ih =>
    cases n with
    | zero =>
      have hrest : rest.filter p = [] := by
        refine List.filter_eq_nil_iff.mpr fun y hy hp => ?_
        obtain ⟨i, hi⟩ := List.getElem?_of_mem hy
        exact absurd (h (i + 1) y hi hp) (Nat.succ_ne_zero i)
      cases hx : p x <;> simp [hx, hrest, Option.filter]
    | succ n =>
      have hx : p x = false :=
        Bool.eq_false_iff.mpr fun hx => absurd (h 0 x rfl hx) (Nat.succ_ne_zero n).symm
      have hrest := ih (n := n) fun i y hi hp => Nat.succ.inj (h (i + 1) y hi hp)
      simpa [hx] using hrest

/-- What a change at one position leaves as it is of each element is the same all over the list. -/
theorem map_modify_of_eq {α β : Type} {f : α → β} {g : α → α} (h : ∀ x, f (g x) = f x) (l : List α)
    (n : Nat) : (l.modify n g).map f = l.map f := by
  refine List.ext_getElem? fun k => ?_
  rw [List.getElem?_map, List.getElem?_map, List.getElem?_modify]
  cases l[k]? with
  | none => rfl
  | some x =>
    by_cases hk : n = k
    · simp [hk, h]
    · simp [hk]

namespace Meter

variable {K : Type} {m : Meter K} {i : Instrument} {name : String} {place : Nat}
  (hm : m.style = .slotted)
include hm

theorem place?_eq_some (h : m.place? name = some place) :
    ∃ x, m.instruments[place]? = some x ∧ x.instrument.name = name := by
  rw [place?, hm] at h
  obtain ⟨hlt, hname, -⟩ := List.findIdx?_eq_some_iff_getElem.mp h
  exact ⟨_, List.getElem?_eq_getElem hlt, by simpa using hname⟩

theorem place?_eq_none (h : m.place? name = none) :
    ∀ x ∈ m.instruments, x.instrument.name ≠ name := by
  rw [place?, hm] at h
  intro x hx hname
  have hno := List.findIdx?_eq_none_iff.mp h x hx
  simp [hname] at hno

theorem place?_eq_none_iff :
    m.place? name = none ↔ name ∉ m.instruments.map fun x => x.instrument.name := by
  rw [place?, hm]
  show List.findIdx? _ _ = none ↔ _
  simp [List.findIdx?_eq_none_iff]

/-- What is installed on an instrument that there is takes the slot. -/
theorem instruments_provideWith_of_some (h : m.place? i.name = some place) (x : Installed K) :
    (m.provideWith i [x]).2.instruments =
      m.instruments.modify place fun j => { j with installed := [x] } := by
  simp [provideWith, provide, h, install, hm]

theorem instruments_provideWith_of_none (h : m.place? i.name = none) (x : Installed K) :
    (m.provideWith i [x]).2.instruments = m.instruments ++ [⟨i, [x]⟩] := by
  have hmodify : ∀ made : MeterInstrument K, (m.instruments ++ [made]).modify m.instruments.length
      (fun j => { j with installed := [x] }) =
        m.instruments ++ [{ made with installed := [x] }] := by
    intro made
    rw [List.modify_eq_take_cons_drop (by simp)]
    simp
  simpa [provideWith, provide, h, install, hm] using hmodify ⟨i, []⟩

theorem names_provideWith_of_some (h : m.place? i.name = some place) (x : Installed K) :
    ((m.provideWith i [x]).2.instruments.map fun j => j.instrument.name) =
      m.instruments.map fun j => j.instrument.name := by
  rw [instruments_provideWith_of_some hm h]
  exact map_modify_of_eq (by exact fun _ => rfl) _ _

/-- The names of a slotted meter stay distinct, and one that is given is among them. -/
theorem names_provideWith (hdistinct : (m.instruments.map fun j => j.instrument.name).Nodup)
    (i : Instrument) (x : Installed K) :
    ((m.provideWith i [x]).2.instruments.map fun j => j.instrument.name).Nodup ∧
      ∀ name, name = i.name ∨ (name ∈ m.instruments.map fun j => j.instrument.name) →
        name ∈ (m.provideWith i [x]).2.instruments.map fun j => j.instrument.name := by
  cases hplace : m.place? i.name with
  | none =>
    have hfree := place?_eq_none hm hplace
    rw [instruments_provideWith_of_none hm hplace, List.map_append, List.nodup_append]
    refine ⟨⟨hdistinct, List.pairwise_singleton _ _, fun name hname other hother => ?_⟩, ?_⟩
    · obtain ⟨j, hj, rfl⟩ := List.mem_map.mp hname
      rw [List.mem_singleton.mp hother]
      exact hfree j hj
    · rintro name (rfl | hname)
      · exact List.mem_append_right _ (List.mem_singleton_self _)
      · exact List.mem_append_left _ hname
  | some place =>
    rw [names_provideWith_of_some hm hplace]
    refine ⟨hdistinct, ?_⟩
    rintro name (rfl | hname)
    · obtain ⟨j, hj, hname⟩ := place?_eq_some hm hplace
      rw [← hname]
      exact List.mem_map_of_mem (List.mem_of_getElem? hj)
    · exact hname

omit hm in
/-- Whether an instrument is refused does not depend on what is given under other names. -/
theorem refusal?_provideWith {j : Instrument} (hne : i.name ≠ j.name) (x : Installed K) :
    (m.provideWith i [x]).2.refusal? j = m.refusal? j := by
  have hstyle := Metering.style_provideWith m i [x]
  cases hm : m.style with
  | onDemand => rw [refusal?_of_onDemand (hstyle.trans hm), refusal?_of_onDemand hm]
  | slotted =>
    have hplace : (m.provideWith i [x]).2.place? j.name = none ↔ m.place? j.name = none := by
      rw [place?_eq_none_iff (hstyle.trans hm), place?_eq_none_iff hm]
      cases h : m.place? i.name with
      | none => simp [instruments_provideWith_of_none hm h, Ne.symm hne]
      | some place => rw [names_provideWith_of_some hm h]
    have hrefuses : (m.provideWith i [x]).2.refuses = m.refuses := by
      unfold provideWith provide
      cases m.place? i.name <;> rfl
    unfold refusal?
    rw [hstyle, hm, hrefuses]
    cases h : m.place? j.name with
    | none => rw [hplace.mpr h]
    | some place =>
      obtain ⟨place', h'⟩ := Option.ne_none_iff_exists'.mp (mt hplace.mp (h ▸ nofun))
      rw [h']

/-- The slot of the name holds what is installed, and the others hold what they held. -/
theorem of_mem_provideWith (hdistinct : (m.instruments.map fun j => j.instrument.name).Nodup)
    {x : Installed K} {j : MeterInstrument K} (hj : j ∈ (m.provideWith i [x]).2.instruments) :
    (j.instrument.name = i.name ∧ j.installed = [x]) ∨
      (j ∈ m.instruments ∧ j.instrument.name ≠ i.name) := by
  cases hplace : m.place? i.name with
  | none =>
    rw [instruments_provideWith_of_none hm hplace] at hj
    rcases List.mem_append.mp hj with hj | hj
    · exact .inr ⟨hj, place?_eq_none hm hplace j hj⟩
    · rw [List.mem_singleton.mp hj]
      exact .inl ⟨rfl, rfl⟩
  | some place =>
    rw [instruments_provideWith_of_some hm hplace] at hj
    obtain ⟨p, hp⟩ := List.getElem?_of_mem hj
    rw [List.getElem?_modify] at hp
    obtain ⟨j', hj', rfl⟩ := Option.map_eq_some_iff.mp hp
    obtain ⟨j₀, hj₀, hname₀⟩ := place?_eq_some hm hplace
    by_cases hp : place = p
    · subst hp
      cases hj₀.symm.trans hj'
      rw [if_pos rfl]
      exact .inl ⟨hname₀, rfl⟩
    · rw [if_neg hp]
      refine .inr ⟨List.mem_of_getElem? hj', fun hname => hp ?_⟩
      have hlt := (List.getElem?_eq_some_iff.mp hj₀).1
      refine (List.getElem?_inj (by simpa using hlt) hdistinct).mp ?_
      rw [List.getElem?_map, List.getElem?_map, hj₀, hj']
      exact congrArg some (hname₀.trans hname.symm)

end Meter

namespace Metering

variable {K : Type} {m : Metering K} {registry number n : Nat} {name : String} {i : Instrument}
  {k : K} {r : RegisteredInstrument K}

/-- The names under which instruments have been registered, by the numbers of these. -/
def givenNames (m : Metering K) : List String := m.registered.map fun r => r.instrument.name

@[simp] theorem givenNames_close (m : Metering K) (number : Nat) :
    (m.close number).givenNames = m.givenNames := by
  rw [givenNames, registered_close]
  exact map_modify_of_eq (by exact fun _ => rfl) _ _

@[simp] theorem givenNames_added (m : Metering K) (registry : Nat) (i : Instrument) (k : K) :
    (m.added registry i k).givenNames = m.givenNames ++ [i.name] := by
  simp [givenNames, added]

theorem length_givenNames (m : Metering K) : m.givenNames.length = m.registered.length :=
  List.length_map _

theorem getElem?_givenNames (h : m.registered[n]? = some r) :
    m.givenNames[n]? = some r.instrument.name := by
  rw [givenNames, List.getElem?_map, h]
  rfl

theorem activeAt_close (m : Metering K) (number n : Nat) :
    (m.close number).activeAt n = if n = number then none else m.activeAt n := by
  simp only [activeAt, registered_close, List.getElem?_modify]
  by_cases hn : number = n
  · subst hn
    cases m.registered[number]? <;> simp [Option.filter]
  · simp [hn, Ne.symm hn]

theorem activeAt_added (m : Metering K) (registry : Nat) (i : Instrument) (k : K) (n : Nat) :
    (m.added registry i k).activeAt n =
      if n = m.registered.length then some ⟨i, k, some registry, true⟩ else m.activeAt n := by
  simp only [activeAt, added]
  rcases Nat.lt_trichotomy n m.registered.length with hn | rfl | hn
  · rw [List.getElem?_append_left hn, if_neg (Nat.ne_of_lt hn)]
  · rw [List.getElem?_concat_length, if_pos rfl]
    rfl
  · have hnone : (m.registered ++ [⟨i, k, some registry, true⟩])[n]? = none :=
      List.getElem?_eq_none (by rw [List.length_append]; exact hn)
    rw [hnone, if_neg (Nat.ne_of_gt hn), List.getElem?_eq_none (Nat.le_of_lt hn)]

theorem mem_activeOnes : r ∈ m.activeOnes ↔ ∃ n, m.activeAt n = some r := by
  rw [activeOnes, List.mem_filter, List.mem_iff_getElem?]
  simp [activeAt, Option.filter_eq_some_iff]

/-! ## The instrument in a slot -/

/-- A slotted meter whose slots hold the instruments that were registered last. -/
structure Slots (m : Metering K) : Prop where
  slotted : m.meter.style = .slotted
  distinct : (m.meter.instruments.map fun x => x.instrument.name).Nodup
  last : ∀ x ∈ m.meter.instruments, ∃ n, x.installed = [.registered n] ∧
    IsLast m.givenNames x.instrument.name n
  given : ∀ name ∈ m.givenNames, name ∈ m.meter.instruments.map fun x => x.instrument.name

namespace Slots

theorem of_empty (hstyle : m.meter.style = .slotted) (hinstruments : m.meter.instruments = [])
    (hregistered : m.registered = []) : m.Slots where
  slotted := hstyle
  distinct := by rw [hinstruments]; exact List.nodup_nil
  last := by rw [hinstruments]; exact nofun
  given := by rw [givenNames, hregistered]; exact nofun

theorem mem_givenNames (h : m.Slots) :
    (name ∈ m.meter.instruments.map fun x => x.instrument.name) ↔ name ∈ m.givenNames := by
  refine ⟨fun hname => ?_, h.given name⟩
  obtain ⟨x, hx, rfl⟩ := List.mem_map.mp hname
  obtain ⟨n, -, hlast⟩ := h.last x hx
  exact List.mem_of_getElem? hlast.1

theorem close (h : m.Slots) (number : Nat) : (m.close number).Slots where
  slotted := by rw [meter_close]; exact h.slotted
  distinct := by rw [meter_close]; exact h.distinct
  last := by rw [meter_close, givenNames_close]; exact h.last
  given := by rw [meter_close, givenNames_close]; exact h.given

/-- A registration takes the slot of its name, or makes a new one. -/
theorem added (h : m.Slots) (registry : Nat) (i : Instrument) (k : K) :
    (m.added registry i k).Slots := by
  have hnames := Meter.names_provideWith h.slotted h.distinct i
    (.registered m.registered.length : Installed K)
  constructor
  · exact (style_provideWith _ _ _).trans h.slotted
  · exact hnames.1
  · intro x hx
    rw [givenNames_added]
    rcases Meter.of_mem_provideWith h.slotted h.distinct hx with ⟨hname, hinstalled⟩ | ⟨hx, hne⟩
    · refine ⟨_, hinstalled, ?_⟩
      rw [hname, ← length_givenNames]
      exact isLast_concat _ _
    · obtain ⟨n, hn, hlast⟩ := h.last x hx
      exact ⟨n, hn, hlast.concat hne.symm⟩
  · intro name hname
    rw [givenNames_added] at hname
    refine hnames.2 name ?_
    rcases List.mem_append.mp hname with hname | hname
    · exact .inr (h.given name hname)
    · exact .inl (List.mem_singleton.mp hname)

end Slots

/-! ## The last instrument of a name -/

/-- Every active instrument is the last that was registered under its name. -/
def Latest (m : Metering K) : Prop :=
  ∀ n r, m.activeAt n = some r → IsLast m.givenNames r.instrument.name n

/-- The active instrument of a name, if there is one. -/
def current (m : Metering K) (name : String) : Option (RegisteredInstrument K) :=
  m.activeOnes.find? fun r => r.instrument.name = name

theorem of_current (h : m.current name = some r) :
    r ∈ m.activeOnes ∧ r.instrument.name = name :=
  ⟨List.mem_of_find?_eq_some h, by simpa using List.find?_some h⟩

namespace Latest

theorem of_empty (h : m.registered = []) : m.Latest := by
  intro n r hr
  simp [activeAt, h] at hr

theorem close (h : m.Latest) (number : Nat) : (m.close number).Latest := by
  intro n r hr
  rw [activeAt_close] at hr
  rw [givenNames_close]
  split at hr
  · cases hr
  · exact h n r hr

theorem added (h : m.Latest) (hfree : ∀ r ∈ m.activeOnes, r.instrument.name ≠ i.name)
    (registry : Nat) (k : K) : (m.added registry i k).Latest := by
  intro n r hr
  rw [activeAt_added] at hr
  rw [givenNames_added]
  split at hr
  · rename_i hn
    cases hr
    rw [hn, ← length_givenNames]
    exact isLast_concat _ _
  · exact (h n r hr).concat (hfree r (mem_activeOnes.mpr ⟨n, hr⟩)).symm

/-- Of the active instruments a name belongs to the last that was registered under it, if to any. -/
theorem filter_activeOnes (h : m.Latest) (hlast : IsLast m.givenNames name n) :
    (m.activeOnes.filter fun r => r.instrument.name = name) = (m.activeAt n).toList := by
  have honly : ∀ i r, m.registered[i]? = some r →
      (decide (r.instrument.name = name) && r.active) = true → i = n := by
    intro i r hr hboth
    obtain ⟨hname, hactive⟩ := Bool.and_eq_true_iff.mp hboth
    have hlast' := h i r (by simp [activeAt, hr, Option.filter, hactive])
    rw [of_decide_eq_true hname] at hlast'
    exact hlast'.unique hlast
  rw [activeOnes, List.filter_filter, filter_eq_toList honly, activeAt]
  cases hr : m.registered[n]? with
  | none => rfl
  | some r =>
    have hname : r.instrument.name = name :=
      Option.some.inj ((getElem?_givenNames hr).symm.trans hlast.1)
    simp [hname, Option.filter]

theorem activeAt_eq_current (h : m.Latest) (hlast : IsLast m.givenNames name n) :
    m.activeAt n = m.current name := by
  rw [current, ← List.head?_filter, h.filter_activeOnes hlast]
  cases m.activeAt n <;> rfl

theorem filter_eq_current (h : m.Latest) (name : String) :
    (m.activeOnes.filter fun r => r.instrument.name = name) = (m.current name).toList := by
  cases hcurrent : m.current name with
  | none =>
    refine List.filter_eq_nil_iff.mpr fun r hr => ?_
    exact List.find?_eq_none.mp hcurrent r hr
  | some r =>
    obtain ⟨hmem, rfl⟩ := of_current hcurrent
    obtain ⟨n, hn⟩ := mem_activeOnes.mp hmem
    have hlast := h n r hn
    rw [h.filter_activeOnes hlast, h.activeAt_eq_current hlast, hcurrent]

/-- The names of active instruments are distinct. -/
theorem nodup_names (h : m.Latest) : (m.activeOnes.map fun r => r.instrument.name).Nodup := by
  rw [← filterMap_activeAt, List.Nodup, List.pairwise_map, List.pairwise_filterMap]
  refine List.nodup_range.imp fun {n n'} hne r hr r' hr' hname => ?_
  have hlast := h n r hr
  rw [hname] at hlast
  exact hne (hlast.unique (h n' r' hr'))

theorem mem_activeOnes_iff (h : m.Latest) :
    r ∈ m.activeOnes ↔ m.current r.instrument.name = some r := by
  refine ⟨fun hr => ?_, fun hr => (of_current hr).1⟩
  obtain ⟨n, hn⟩ := mem_activeOnes.mp hr
  rw [← h.activeAt_eq_current (h n r hn), hn]

end Latest

/-! ## What is installed on an instrument -/

/-- The active instrument that is installed on an instrument of the meter, and it alone. -/
def behind (m : Metering K) (x : MeterInstrument K) : Option (RegisteredInstrument K) :=
  match x.installed with
  | [.registered n] => m.activeAt n
  | _ => none

/-- On each instrument of the meter one registration is installed, which was made under its name,
and on no two the same. -/
structure Singly (m : Metering K) : Prop where
  installed : ∀ x ∈ m.meter.instruments, ∃ n, x.installed = [.registered n] ∧
    m.givenNames[n]? = some x.instrument.name
  distinct : m.meter.instruments.Pairwise fun x x' => x.installed ≠ x'.installed

theorem behind_of_installed {x : MeterInstrument K} (h : x.installed = [.registered n]) :
    m.behind x = m.activeAt n := by
  rw [behind, h]

namespace Singly

variable {x : MeterInstrument K}

theorem of_behind (h : m.Singly) (hx : x ∈ m.meter.instruments) (hr : m.behind x = some r) :
    r ∈ m.activeOnes ∧ r.instrument.name = x.instrument.name := by
  obtain ⟨n, hn, hname⟩ := h.installed x hx
  rw [behind_of_installed hn] at hr
  refine ⟨mem_activeOnes.mpr ⟨n, hr⟩, ?_⟩
  have hgiven := getElem?_givenNames (Option.filter_eq_some_iff.mp hr).1
  exact Option.some.inj (hgiven.symm.trans hname)

/-- What holds of every active instrument holds of whatever stands on an instrument of the meter. -/
theorem forall_behind_iff (h : m.Singly)
    (hperm : (m.meter.instruments.filterMap m.behind).Perm m.activeOnes)
    {p : Option (RegisteredInstrument K) → Prop} (hnone : p none) :
    (∀ x ∈ m.meter.instruments, p (m.behind x)) ↔ ∀ r ∈ m.activeOnes, p (some r) := by
  constructor
  · intro hall r hr
    obtain ⟨x, hx, hbehind⟩ := List.mem_filterMap.mp (hperm.mem_iff.mpr hr)
    exact hbehind ▸ hall x hx
  · intro hall x hx
    cases hbehind : m.behind x with
    | none => exact hnone
    | some r => exact hall r (h.of_behind hx hbehind).1

/-- What is active on different instruments has different names. -/
theorem pairwise_names (h : m.Singly) (hlatest : m.Latest) :
    m.meter.instruments.Pairwise fun x x' => ∀ r ∈ m.behind x, ∀ r' ∈ m.behind x',
      r.instrument.name ≠ r'.instrument.name := by
  refine h.distinct.imp_of_mem fun {x x'} hx hx' hne r hr r' hr' hname => hne ?_
  obtain ⟨n, hn, -⟩ := h.installed x hx
  obtain ⟨n', hn', -⟩ := h.installed x' hx'
  rw [Option.mem_def, behind_of_installed hn] at hr
  rw [Option.mem_def, behind_of_installed hn'] at hr'
  have hlast := hlatest n r hr
  rw [hname] at hlast
  rw [hn, hn', hlast.unique (hlatest n' r' hr')]

end Singly

/-- On an on-demand meter the active instruments are installed in the order of registration. -/
theorem InStep.filterMap_behind (h : m.InStep) :
    m.meter.instruments.filterMap m.behind = m.activeOnes := by
  have hnumbered : m.meter.instruments.map m.behind =
      (List.range m.registered.length).map m.activeAt := by
    refine List.ext_getElem? fun n => ?_
    rw [List.getElem?_map, List.getElem?_map, h.installed, List.getElem?_mapIdx]
    by_cases hn : n < m.registered.length <;> simp [hn, behind]
  calc m.meter.instruments.filterMap m.behind
      = (m.meter.instruments.map m.behind).filterMap id := by rw [List.filterMap_map]; rfl
    _ = (List.range m.registered.length).filterMap m.activeAt := by
        rw [hnumbered, List.filterMap_map]
        rfl
    _ = m.activeOnes := m.filterMap_activeAt

theorem InStep.singly (h : m.InStep) : m.Singly where
  installed x hx := by
    obtain ⟨n, hn⟩ := List.getElem?_of_mem hx
    rw [h.installed, List.getElem?_mapIdx] at hn
    obtain ⟨r, hr, rfl⟩ := Option.map_eq_some_iff.mp hn
    exact ⟨n, rfl, getElem?_givenNames hr⟩
  distinct := by
    rw [h.installed, List.pairwise_iff_getElem]
    intro n n' hn hn' hlt
    simp [Nat.ne_of_lt hlt]

namespace Slots

theorem singly (h : m.Slots) : m.Singly where
  installed x hx := by
    obtain ⟨n, hn, hlast⟩ := h.last x hx
    exact ⟨n, hn, hlast.1⟩
  distinct := by
    refine (List.pairwise_map.mp h.distinct).imp_of_mem fun {x x'} hx hx' hne hsame => hne ?_
    obtain ⟨n, hn, hlast⟩ := h.last x hx
    obtain ⟨n', hn', hlast'⟩ := h.last x' hx'
    rw [hn, hn'] at hsame
    cases hsame
    exact Option.some.inj (hlast.1.symm.trans hlast'.1)

theorem behind_eq_current (h : m.Slots) (hlatest : m.Latest) {x : MeterInstrument K}
    (hx : x ∈ m.meter.instruments) : m.behind x = m.current x.instrument.name := by
  obtain ⟨n, hn, hlast⟩ := h.last x hx
  rw [behind_of_installed hn, hlatest.activeAt_eq_current hlast]

/-- What stands in the slots and is active are the active instruments. -/
theorem perm_activeOnes (h : m.Slots) (hlatest : m.Latest) :
    (m.meter.instruments.filterMap m.behind).Perm m.activeOnes := by
  have hslots : (m.meter.instruments.filterMap m.behind).Nodup := by
    rw [List.Nodup, List.pairwise_filterMap]
    refine (h.singly.pairwise_names hlatest).imp fun {x x'} hne r hr r' hr' hsame => ?_
    exact hne r hr r' hr' (by rw [hsame])
  have hactive : m.activeOnes.Nodup :=
    (List.pairwise_map.mp hlatest.nodup_names).imp fun hne hsame => hne (by rw [hsame])
  refine (List.perm_ext_iff_of_nodup hslots hactive).mpr fun r => ?_
  rw [List.mem_filterMap]
  constructor
  · rintro ⟨x, hx, hr⟩
    exact (h.singly.of_behind hx hr).1
  · intro hr
    obtain ⟨n, hn⟩ := mem_activeOnes.mp hr
    obtain ⟨x, hx, hname⟩ :=
      List.mem_map.mp (h.given _ (List.mem_of_getElem? (hlatest n r hn).1))
    refine ⟨x, hx, ?_⟩
    rw [h.behind_eq_current hlatest hx, hname]
    exact hlatest.mem_activeOnes_iff.mp hr

end Slots

end Metering

namespace Collection

open Act

variable {σ K : Type} [HasMetering σ K] [HasChannel σ]

/-- An instrument of the meter on which one thing is installed is observed as this thing runs. -/
theorem observe_of_installed (callbacks : Interpretation K σ) {st : σ} {place : Nat}
    {i : Instrument} {y : Installed K}
    (h : (HasMetering.metering st).meter.instruments[place]? = some ⟨i, [y]⟩) :
    observe callbacks place st =
      (Recorder.runOrdinary (runInstalled callbacks Recorder.asIs y) >>= fun o =>
        match o with
        | (some f, _) => pure [⟨i, .error f⟩]
        | (none, ms) => pure [⟨i, .ok ms⟩]) st := by
  rw [observe, bind_of_returned (read_apply st), h]
  simp only [collect_singleton, bind_assoc, pure_bind]
  refine bind_congr_at rfl fun o st' _ => ?_
  rcases o with ⟨_ | f, ms⟩ <;> rfl

end Collection

end AspectAgent
