import Mathlib.Data.List.DropRight
import Mathlib.Data.Set.List
import AspectAgent.Proofs.StableSorting
import AspectAgent.Storage

/-!
# Bounded storages

A ring drops its oldest item when it is full, whatever the times of its items. So it holds the last
items written, and whoever reads it cannot tell it from an unbounded storage to which only these
have been written. Reading a log sorts what it finds by time; where the times are numbers any two of
them can be compared, and entries of one time stay in the order of writing.
-/

namespace AspectAgent

namespace LinePoint

theorem le_antisymm {a b : LinePoint} (hab : le a b = true) (hba : le b a = true) : a = b := by
  cases a <;> cases b <;> simp_all [le]
  omega

instance : LinearOrder LinePoint where
  le a b := a.le b = true
  le_refl a := by cases a <;> simp [le]
  le_trans _ _ _ := le_trans
  le_antisymm _ _ := le_antisymm
  le_total a b := (Bool.or_eq_true _ _).mp (le_total a b)
  toDecidableLE a b := inferInstanceAs (Decidable (a.le b = true))
  toDecidableEq := inferInstance

theorem lt_eq_decide (a b : LinePoint) : a.lt b = decide (a < b) := by
  rw [Bool.eq_iff_iff, decide_eq_true_iff, ← not_le, lt, Bool.not_eq_true', Bool.eq_false_iff]
  rfl

end LinePoint

namespace Value

variable {v w : Value} {p q : LinePoint}

theorem isNumber_of_point (h : v.point? = some p) : v.isNumber = true := by
  cases v with
  | bool | int | float => rfl
  | _ => cases h

/-- Two numbers can be compared; a not-a-number is in order with nothing. -/
theorem isOrdered_of_isNumber (o : Ordered) (hv : v.isNumber = true) (hw : w.isNumber = true) :
    isOrdered o v w = .ok (match v.point?, w.point? with
      | some p, some q => o.holds (decide <| · < ·) p q
      | _, _ => false) := by
  rw [isOrdered.eq_def]
  split
  · cases hv
  · cases hv
  · rw [hv, hw, Bool.and_self, if_pos rfl]
    simp only [← LinePoint.lt_eq_decide]
    cases v.point? with
    | none => rfl
    | some p =>
      cases w.point? with
      | none => rfl
      | some q => rfl

/-- Is a point of the line later than a time? Nothing is later than a not-a-number. -/
def isBefore (since : Value) (t : LinePoint) : Bool := since.point?.any fun s => decide (s < t)

theorem isLater_of_isNumber {since : Value} (hv : v.point? = some p)
    (hsince : since.isNumber = true) : isOrdered .greater v since = .ok (since.isBefore p) := by
  rw [isOrdered_of_isNumber _ (isNumber_of_point hv) hsince, hv, isBefore]
  cases since.point? <;> rfl

end Value

theorem filterAuxM_of_ok {α ε : Type} {xs : List α} {p : α → Except ε Bool} {q : α → Bool}
    (h : ∀ x ∈ xs, p x = .ok (q x)) (kept : List α) :
    xs.filterAuxM p kept = .ok ((xs.filter q).reverse ++ kept) := by
  induction xs generalizing kept with
  | nil => rfl
  | cons x rest ih =>
    rw [List.filterAuxM, h x (by simp)]
    show List.filterAuxM p rest (cond (q x) (x :: kept) kept) = _
    rw [ih fun y hy => h y (by simp [hy])]
    cases hx : q x with
    | true => simp [hx]
    | false => simp [hx]

/-- A test that never fails selects as a plain one does. -/
theorem filterM_of_ok {α ε : Type} {xs : List α} {p : α → Except ε Bool} {q : α → Bool}
    (h : ∀ x ∈ xs, p x = .ok (q x)) : xs.filterM p = .ok (xs.filter q) := by
  rw [List.filterM, filterAuxM_of_ok h []]
  show Except.ok ((xs.filter q).reverse ++ []).reverse = _
  rw [List.append_nil, List.reverse_reverse]

/-- What is wrapped and then taken out again stays as it is. -/
theorem mapM_map_of_ok {α β ε : Type} (wrap : α → β) (out : β → Except ε α)
    (h : ∀ x, out (wrap x) = .ok x) (xs : List α) : (xs.map wrap).mapM out = .ok xs := by
  have hpure : out ∘ wrap = fun x => pure (id x) := funext h
  rw [List.mapM_map]
  exact (hpure ▸ List.mapM_pure).trans (congrArg Except.ok (List.map_id xs))

namespace Archive

variable {α : Type}

theorem items_writeAll_unbounded (xs : List α) : (unbounded.writeAll xs).items = xs :=
  items_writeAll_of_unbounded rfl xs

/-- A ring holds the last items written. -/
theorem items_writeAll_ring (k : Nat) (xs : List α) :
    (writeAll { capacity := some k } xs).items = xs.rtake k := by
  have hempty : ({ capacity := some k } : Archive α).items = lastOf k [] := List.drop_nil.symm
  exact items_writeAll_of_ring rfl hempty xs

/-- Reading depends on the items alone, not on how many are kept at most. -/
theorem readSince_congr {a b : Archive α} (h : a.items = b.items) (time : α → Value)
    (since : Value) : a.readSince time since = b.readSince time since := by
  rw [readSince, readSince, h]

/-- Reading items whose times are numbers arranges those that are later. -/
theorem readSince_arranges {a : Archive α} {time : α → Value} {moment : α → LinePoint}
    (htime : ∀ x ∈ a.items, (time x).point? = some (moment x)) {since : Value}
    (hsince : since.isNumber = true) :
    ∃ xs, a.readSince time since = .ok xs ∧
      Sorting.Arranges moment (a.items.filter fun x => since.isBefore (moment x)) xs := by
  have hlater : a.items.filterM (fun x => Value.isOrdered .greater (time x) since) =
      .ok (a.items.filter fun x => since.isBefore (moment x)) :=
    filterM_of_ok fun x hx => Value.isLater_of_isNumber (htime x hx) hsince
  have hcompares : Sorting.ComparesBy (fun x y => Value.isOrdered .less (time x) (time y)) moment
      (a.items.filter fun x => since.isBefore (moment x)) := by
    intro x hx y hy
    have hx := htime x (List.mem_of_mem_filter hx)
    have hy := htime y (List.mem_of_mem_filter hy)
    show Value.isOrdered .less (time x) (time y) = _
    rw [Value.isOrdered_of_isNumber _ (Value.isNumber_of_point hx) (Value.isNumber_of_point hy),
      hx, hy]
    rfl
  obtain ⟨xs, hsort, harranges⟩ := Sorting.sort_arranges hcompares
  refine ⟨xs, ?_, harranges⟩
  rw [readSince, hlater]
  exact hsort

end Archive

/-- The moment of an item, by those of the entries. -/
def StoredItem.momentBy (moment : LogEntry → LinePoint) : StoredItem → LinePoint
  | .entry e => moment e
  | .sample _ => .bottom

namespace Storage

/-- A storage after items have been written to it, in order. -/
def writeAll (s : Storage) (xs : List StoredItem) : Storage := xs.foldl (fun s x => s.write x) s

/-- A log storage to which entries have been written. -/
def logged (a : Archive StoredItem) (es : List LogEntry) : Storage :=
  writeAll ⟨true, a⟩ (es.map .entry)

/-- A metric storage to which samples have been written. -/
def sampled (a : Archive StoredItem) (ms : List MetricSample) : Storage :=
  writeAll ⟨false, a⟩ (ms.map .sample)

theorem writeAll_eq (s : Storage) (xs : List StoredItem) :
    s.writeAll xs = { s with archive := s.archive.writeAll xs } := by
  induction xs generalizing s with
  | nil => rfl
  | cons x rest ih => exact ih (s.write x)

theorem logged_eq (a : Archive StoredItem) (es : List LogEntry) :
    logged a es = ⟨true, a.writeAll (es.map .entry)⟩ := writeAll_eq ..

@[simp] theorem holdsLog_logged (a : Archive StoredItem) (es : List LogEntry) :
    (logged a es).holdsLog = true := by rw [logged_eq]

theorem sampled_eq (a : Archive StoredItem) (ms : List MetricSample) :
    sampled a ms = ⟨false, a.writeAll (ms.map .sample)⟩ := writeAll_eq ..

@[simp] theorem holdsLog_sampled (a : Archive StoredItem) (ms : List MetricSample) :
    (sampled a ms).holdsLog = false := by rw [sampled_eq]

theorem map_rtake {α β : Type} (f : α → β) (k : Nat) (xs : List α) :
    (xs.map f).rtake k = (xs.rtake k).map f := by
  rw [List.rtake, List.rtake, List.length_map, List.map_drop]

theorem items_logged_unbounded (es : List LogEntry) :
    (logged .unbounded es).archive.items = es.map .entry := by
  rw [logged_eq]
  exact Archive.items_writeAll_unbounded _

theorem items_logged_ring (k : Nat) (es : List LogEntry) :
    (logged { capacity := some k } es).archive.items = (es.rtake k).map .entry := by
  rw [logged_eq, ← map_rtake]
  exact Archive.items_writeAll_ring k _

theorem read_congr {s t : Storage} (hkind : s.holdsLog = t.holdsLog)
    (hitems : s.archive.items = t.archive.items) (since : Value) : s.read since = t.read since := by
  rw [read, read, hkind, Archive.readSince_congr hitems]

theorem scrape_of_samples {s : Storage} {ms : List MetricSample} (hlog : s.holdsLog = false)
    (hitems : s.archive.items = ms.map .sample) : s.scrape = .ok ms := by
  rw [scrape, hlog, hitems]
  exact mapM_map_of_ok StoredItem.sample StoredItem.sample? (fun _ => rfl) ms

/-- What is read of the entries that a log has retained: those later than a time, each as often as
it is retained, in ascending order of time, and those of one time in the order in which they are
retained. -/
structure ReadsLater (moment : LogEntry → LinePoint) (since : Value)
    (retained result : List LogEntry) : Prop where
  perm : result.Perm (retained.filter fun e => since.isBefore (moment e))
  ascending : result.Pairwise fun d e => moment d ≤ moment e
  ties : ∀ t, result.filter (moment · = t) =
    (retained.filter fun e => since.isBefore (moment e)).filter (moment · = t)

theorem read_of_entries {s : Storage} {es : List LogEntry} {moment : LogEntry → LinePoint}
    (hlog : s.holdsLog = true) (hitems : s.archive.items = es.map .entry)
    (htime : ∀ e ∈ es, e.timestamp.point? = some (moment e)) {since : Value}
    (hsince : since.isNumber = true) :
    ∃ result, s.read since = .ok result ∧ ReadsLater moment since es result := by
  have htimes : ∀ x ∈ s.archive.items, x.timestamp.point? = some (x.momentBy moment) := by
    rw [hitems]
    exact List.forall_mem_map.mpr htime
  obtain ⟨xs, hread, harranges⟩ := Archive.readSince_arranges htimes hsince
  rw [hitems, List.filter_map] at harranges
  obtain ⟨result, rfl⟩ : xs ∈ Set.range (List.map StoredItem.entry) := by
    rw [Set.range_list_map]
    intro x hx
    obtain ⟨e, -, he⟩ := List.mem_map.mp (harranges.perm.mem_iff.mp hx)
    exact ⟨e, he⟩
  have hentries := harranges.of_map fun _ _ h => StoredItem.entry.inj h
  refine ⟨result, ?_, hentries.perm, hentries.ascending, hentries.ties⟩
  rw [read, hlog, hread]
  exact mapM_map_of_ok StoredItem.entry StoredItem.entry? (fun _ => rfl) result

/-- **Bounded storages.** A ring of any positive size that an archive can have shows a reader just
what an unbounded storage shows to which only the last items were written, and so what one shows to
which all were written until it has been filled. What is read of a log whose times are numbers is
what it has retained that is later, in order of time and then of writing; the samples are the last
ones in order of writing. A ring of a greater size cannot be made. -/
theorem bounded_storage {n : Int} (hpositive : 0 < n) :
    (Archive.maxCapacity < n →
      (Archive.ring? n : Except Failure (Archive StoredItem)) = .error .capacityTooLarge) ∧
    (n ≤ Archive.maxCapacity → ∃ ring : Archive StoredItem, Archive.ring? n = .ok ring ∧
      (∀ es since, (logged ring es).read since =
        (logged .unbounded (es.rtake n.toNat)).read since) ∧
      (∀ es since, (es.length : Int) ≤ n →
        (logged ring es).read since = (logged .unbounded es).read since) ∧
      (∀ es moment, (∀ e ∈ es, e.timestamp.point? = some (moment e)) →
        ∀ since : Value, since.isNumber = true → ∃ last all,
          (logged ring es).read since = .ok last ∧
          ReadsLater moment since (es.rtake n.toNat) last ∧
          (logged .unbounded es).read since = .ok all ∧ ReadsLater moment since es all) ∧
      ∀ ms, (sampled ring ms).scrape = .ok (ms.rtake n.toNat)) := by
  refine ⟨fun hwide => ?_, fun hfits => ⟨{ capacity := some n.toNat }, ?_, fun es since => ?_,
    fun es since hlength => ?_, fun es moment htime since hsince => ?_, fun ms => ?_⟩⟩
  · rw [Archive.ring?, if_neg (by omega), if_pos hwide]
  · rw [Archive.ring?, if_neg (by omega), if_neg (by omega)]
  · refine read_congr (by simp) ?_ since
    rw [items_logged_ring, items_logged_unbounded]
  · -- as long as the ring is not full, the last items are all
    have hall : es.rtake n.toNat = es := by
      rw [List.rtake, Nat.sub_eq_zero_of_le (by omega), List.drop_zero]
    refine read_congr (by simp) ?_ since
    rw [items_logged_ring, items_logged_unbounded, hall]
  · obtain ⟨last, hlast, hreads⟩ := read_of_entries (by simp) (items_logged_ring n.toNat es)
      (fun e he => htime e (List.mem_of_mem_drop he)) hsince
    obtain ⟨all, hall, hreadsAll⟩ :=
      read_of_entries (by simp) (items_logged_unbounded es) htime hsince
    exact ⟨last, all, hlast, hreads, hall, hreadsAll⟩
  · refine scrape_of_samples (by simp) ?_
    rw [sampled_eq, ← map_rtake]
    exact Archive.items_writeAll_ring ..

/-- Entries whose times come in no order, three of them the same. -/
def jumbled : List LogEntry :=
  [(.int 9, "first"), (.int 4, "second"), (.int 4, "third"), (.int 2, "fourth"),
    (.bool true, "fifth"), (.int 4, "sixth")].map fun e => ⟨e.1, .text "INFO", e.2, []⟩

/-- The moment of an entry, if its time is a number. -/
def momentOf (e : LogEntry) : LinePoint := e.timestamp.point?.getD .bottom

/-- A ring of four that has dropped the latest entry and one of three that tie. -/
theorem bounded_storage_of_jumbled :
    (0 : Int) < 4 ∧ (4 : Int) ≤ Archive.maxCapacity ∧
      (∀ e ∈ jumbled, e.timestamp.point? = some (momentOf e)) ∧
      ∃ ring last all, Archive.ring? 4 = .ok ring ∧
        (logged ring jumbled).read (.int 1) = .ok last ∧
        (logged .unbounded (jumbled.drop 2)).read (.int 1) = .ok last ∧
        ReadsLater momentOf (.int 1) (jumbled.drop 2) last ∧
        (logged .unbounded jumbled).read (.int 1) = .ok all ∧
        ReadsLater momentOf (.int 1) jumbled all := by
  have hpositive : (0 : Int) < 4 := by decide
  have hfits : (4 : Int) ≤ Archive.maxCapacity := by decide
  have htimes : ∀ e ∈ jumbled, e.timestamp.point? = some (momentOf e) := by
    refine List.forall_mem_map.mpr fun t ht => ?_
    simp only [List.mem_cons, List.not_mem_nil, or_false] at ht
    rcases ht with rfl | rfl | rfl | rfl | rfl | rfl <;> rfl
  obtain ⟨ring, hring, hlast, -, hreads, -⟩ := (bounded_storage hpositive).2 hfits
  obtain ⟨last, all, hread, hlater, hreadAll, hlaterAll⟩ :=
    hreads jumbled momentOf htimes (.int 1) rfl
  exact ⟨hpositive, hfits, htimes, ring, last, all, hring, hread,
    (hlast jumbled (.int 1)).symm.trans hread, hlater, hreadAll, hlaterAll⟩

/-- An archive cannot be made for every size. -/
theorem ring_refused_of_wide :
    (0 : Int) < 9223372036854775808 ∧
      (Archive.ring? 9223372036854775808 : Except Failure (Archive StoredItem)) =
        .error .capacityTooLarge ∧
      Failure.capacityTooLarge.kind = .overflow :=
  ⟨by decide, rfl, rfl⟩

end Storage

end AspectAgent
