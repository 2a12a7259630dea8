import Mathlib.Data.List.Induction
import AspectAgent.Diagnostics.Handler

/-!
# Where the attributes of an entry come from

The attributes of an entry are written from four sources one after the other: the included fields of
the record, the context of the handler, the scalar extra fields and the fields of the failure. A key
that is written again keeps its place and takes the new value. So a key has the value of the last
source that defines it, and stands where the first one has put it. An extra field that is no scalar
defines nothing, and does nothing either to what another source defines.
-/

namespace AspectAgent

namespace Table

variable {α : Type} {t : Table α} {k : String} {v : α}

theorem get?_append (t u : Table α) (k : String) : get? (t ++ u) k = (t.get? k).or (get? u k) := by
  induction t with
  | nil => rfl
  | cons e rest ih =>
    obtain ⟨j, w⟩ := e
    by_cases hj : j = k
    · simp [get?, hj]
    · simpa [get?, hj] using ih

theorem mem_of_get? (h : t.get? k = some v) : (k, v) ∈ t := by
  induction t with
  | nil => cases h
  | cons e rest ih =>
    obtain ⟨j, w⟩ := e
    by_cases hj : j = k
    · rw [get?, if_pos hj] at h
      rw [hj, Option.some.inj h]
      exact List.mem_cons_self ..
    · rw [get?, if_neg hj] at h
      exact List.mem_cons_of_mem _ (ih h)

/-- In a table with each key once every entry is found. -/
theorem get?_eq_some_iff (h : t.keys.Nodup) : t.get? k = some v ↔ (k, v) ∈ t := by
  refine ⟨mem_of_get?, fun hmem => ?_⟩
  induction t with
  | nil => cases hmem
  | cons e rest ih =>
    obtain ⟨j, w⟩ := e
    obtain ⟨hj, hrest⟩ := List.nodup_cons.mp h
    rcases List.mem_cons.mp hmem with heq | hmem
    · cases heq
      rw [get?, if_pos rfl]
    · have hk : k ∈ keys rest := List.mem_map_of_mem hmem
      have hne : j ≠ k := fun heq => hj (heq ▸ hk)
      rw [get?, if_neg hne, ih hrest hmem]

theorem get?_reverse (h : t.keys.Nodup) (k : String) : get? t.reverse k = t.get? k := by
  have hreverse : (keys t.reverse).Nodup := (t.reverse_perm.map Prod.fst).nodup_iff.mpr h
  refine Option.ext fun v => ?_
  rw [get?_eq_some_iff h, get?_eq_some_iff hreverse, List.mem_reverse]

/-- Of the entries of one key the last one written counts. -/
theorem get?_putAll (t es : Table α) (k : String) :
    (t.putAll es).get? k = (get? es.reverse k).or (t.get? k) := by
  induction es generalizing t with
  | nil => rfl
  | cons e rest ih =>
    show (putAll (t.put e.1 e.2) rest).get? k = _
    rw [ih, get?_put, List.reverse_cons, get?_append, Option.or_assoc]
    by_cases he : e.1 = k <;> simp [get?, he]

theorem get?_ofPairs (es : Table α) (k : String) : (ofPairs es).get? k = get? es.reverse k := by
  rw [ofPairs, get?_putAll, get?_nil, Option.or_none]

theorem get?_ofPairs_of_nodup {es : Table α} (h : es.keys.Nodup) (k : String) :
    (ofPairs es).get? k = es.get? k := by
  rw [get?_ofPairs, get?_reverse h]

/-- If several sources write one after the other, a key has the value of the last one that writes
it. -/
theorem get?_ofPairs_flatMap {σ : Type} (written : σ → Table α) (sources : List σ) (k : String) :
    (ofPairs (sources.flatMap written)).get? k =
      sources.reverse.findSome? fun s => (ofPairs (written s)).get? k := by
  induction sources with
  | nil => rfl
  | cons s rest ih =>
    have happend : get? (rest.flatMap written).reverse k =
        rest.reverse.findSome? fun s => (ofPairs (written s)).get? k := by rw [← ih, get?_ofPairs]
    rw [List.flatMap_cons, get?_ofPairs, List.reverse_append, get?_append, happend,
      List.reverse_cons, List.findSome?_append, List.findSome?_singleton, get?_ofPairs]

/-- If the entries of one key agree, those of a table are found. -/
theorem get?_eq_some_iff_of_agree {es : Table α} {value : String → Option α}
    (h : ∀ e ∈ es, value e.1 = some e.2) : es.get? k = some v ↔ k ∈ es.keys ∧ value k = some v := by
  constructor
  · intro hget
    have hmem := mem_of_get? hget
    exact ⟨List.mem_map_of_mem hmem, h _ hmem⟩
  · rintro ⟨hk, hvalue⟩
    obtain ⟨w, hw⟩ := get?_isSome_of_mem_keys hk
    rw [hw, ← h _ (mem_of_get? hw), hvalue]

/-- A key stands where it is written first. -/
theorem keys_ofPairs (es : Table α) : (ofPairs es).keys = es.keys.eraseDups := by
  induction es using List.reverseRecOn with
  | nil => rfl
  | append_singleton es e ih =>
    have hput : ofPairs (es ++ [e]) = (ofPairs es).put e.1 e.2 := List.foldl_append
    have hkeys : keys (es ++ [e]) = keys es ++ [e.1] := List.map_append
    rw [hput, keys_put, hkeys, List.eraseDups_append, ih]
    by_cases he : e.1 ∈ keys es
    · simp [he, List.removeAll]
    · simp [he, List.removeAll, List.eraseDups_cons]

end Table

/-- A source of attributes. -/
inductive EntrySource where
  | included
  | context
  | extra
  | failure

namespace EntrySource

/-- The sources by rank, the highest first. An entry is built in the opposite order. -/
def ranking : List EntrySource := [.failure, .extra, .context, .included]

variable (f : EntryFormat) (context : Table Value) (report : FailureReport) (r : LogRecord)

/-- A source defines a key by a value. -/
def Defines (k : String) (v : Value) : EntrySource → Prop
  | .included => k ∈ f.fields ∧ r.includable? k = some v
  | .context => context.get? k = some v
  | .extra => r.extra.get? k = some v ∧ v.isScalar = true ∧ k ∉ LogRecord.standardFields
  | .failure =>
    (k = "exc_type" ∧ ∃ kind, report.kind = some kind ∧ v = .text kind.name) ∨
    (k = "exc_message" ∧ ∃ cause, report.failure = some cause ∧ v = .text cause.text) ∨
    (k = "exc_traceback" ∧ report.failure.isSome ∧ v = .text report.trace)

/-- The keys that a source defines, in its own order. -/
def keys : EntrySource → List String
  | .included => f.fields.filter fun k => (r.includable? k).isSome
  | .context => context.keys
  | .extra => r.extra.keys.filter fun k =>
      k ∉ LogRecord.standardFields && (r.extra.get? k).any Value.isScalar
  | .failure => (if report.kind.isSome then ["exc_type"] else []) ++
      if report.failure.isSome then ["exc_message", "exc_traceback"] else []

/-- The entries that a source writes. -/
def written : EntrySource → Table Value
  | .included => f.fields.filterMap fun k => (r.includable? k).map (k, ·)
  | .context => context
  | .extra => r.scalarExtra
  | .failure => report.attributes

variable {f context report r}

theorem attributes_eq : f.attributes context report r =
    Table.ofPairs (ranking.reverse.flatMap (written f context report r)) := by
  simp [EntryFormat.attributes, ranking, written, Table.ofPairs, Table.putAll]

theorem mem_scalarExtra {e : String × Value} : e ∈ r.scalarExtra ↔
    e ∈ r.extra ∧ e.2.isScalar = true ∧ e.1 ∉ LogRecord.standardFields := by
  simp [LogRecord.scalarExtra, and_comm]

theorem nodup_scalarExtra (h : r.extra.keys.Nodup) : r.scalarExtra.keys.Nodup :=
  h.sublist (List.filter_sublist.map Prod.fst)

theorem keys_written (hextra : r.extra.keys.Nodup) (s : EntrySource) :
    Table.keys (written f context report r s) = keys f context report r s := by
  cases s with
  | included =>
    show List.map Prod.fst (f.fields.filterMap fun k => (r.includable? k).map (k, ·)) =
      f.fields.filter fun k => (r.includable? k).isSome
    induction f.fields with
    | nil => rfl
    | cons k rest ih =>
      cases hk : r.includable? k with
      | none => simp [hk, ih]
      | some v => simp [hk, ih]
  | context => rfl
  | extra =>
    have hfind : ∀ e ∈ r.extra, r.extra.get? e.1 = some e.2 := fun e he =>
      (Table.get?_eq_some_iff hextra).mpr he
    show List.map Prod.fst r.scalarExtra = (r.extra.map Prod.fst).filter _
    rw [List.filter_map]
    refine congrArg _ (List.filter_congr fun e he => ?_)
    simp [hfind e he]
  | failure =>
    cases hkind : report.kind <;> cases hfailure : report.failure <;>
      simp [written, keys, FailureReport.attributes, Table.keys, hkind, hfailure]

theorem nodup_failure : report.attributes.keys.Nodup := by
  cases hkind : report.kind <;> cases hfailure : report.failure <;>
    simp [FailureReport.attributes, Table.keys, hkind, hfailure]

theorem mem_failure {k : String} {v : Value} :
    (k, v) ∈ report.attributes ↔ Defines f context report r k v .failure := by
  cases hkind : report.kind <;> cases hfailure : report.failure <;>
    simp [FailureReport.attributes, Defines, hkind, hfailure]

/-- What a source writes is what it defines. -/
theorem get?_written (hcontext : context.keys.Nodup) (hextra : r.extra.keys.Nodup)
    (k : String) (v : Value) (s : EntrySource) :
    (Table.ofPairs (written f context report r s)).get? k = some v ↔
      Defines f context report r k v s := by
  cases s with
  | included =>
    have hagree : ∀ e ∈ (written f context report r .included).reverse,
        r.includable? e.1 = some e.2 := by
      intro e he
      obtain ⟨j, -, hj⟩ := List.mem_filterMap.mp (List.mem_reverse.mp he)
      obtain ⟨w, hw, rfl⟩ := Option.map_eq_some_iff.mp hj
      exact hw
    have hkeys : k ∈ Table.keys (written f context report r .included).reverse ↔
        k ∈ f.fields ∧ (r.includable? k).isSome := by
      rw [Table.keys, List.map_reverse, List.mem_reverse, ← Table.keys, keys_written hextra]
      exact List.mem_filter
    rw [Table.get?_ofPairs, Table.get?_eq_some_iff_of_agree hagree, hkeys]
    exact ⟨fun h => ⟨h.1.1, h.2⟩, fun h => ⟨⟨h.1, Option.isSome_of_eq_some h.2⟩, h.2⟩⟩
  | context =>
    rw [written, Table.get?_ofPairs_of_nodup hcontext]
    rfl
  | extra =>
    rw [written, Table.get?_ofPairs_of_nodup (nodup_scalarExtra hextra),
      Table.get?_eq_some_iff (nodup_scalarExtra hextra), mem_scalarExtra,
      ← Table.get?_eq_some_iff hextra]
    rfl
  | failure =>
    rw [written, Table.get?_ofPairs_of_nodup nodup_failure, Table.get?_eq_some_iff nodup_failure,
      mem_failure]

theorem mem_ranking (s : EntrySource) : s ∈ ranking := by cases s <;> simp [ranking]

theorem mem_keys_iff (hcontext : context.keys.Nodup) (hextra : r.extra.keys.Nodup) {k : String}
    {s : EntrySource} : k ∈ keys f context report r s ↔ ∃ v, Defines f context report r k v s := by
  rw [← keys_written hextra, ← List.mem_eraseDups, ← Table.keys_ofPairs, ← Table.has_iff_mem_keys,
    Table.has, Option.isSome_iff_exists]
  exact exists_congr fun v => get?_written hcontext hextra k v s

/-- A key has the value of the source of the highest rank that defines it. -/
theorem get?_attributes (hcontext : context.keys.Nodup) (hextra : r.extra.keys.Nodup)
    (k : String) (v : Value) : (f.attributes context report r).get? k = some v ↔
      ∃ higher s lower, ranking = higher ++ s :: lower ∧ Defines f context report r k v s ∧
        ∀ s' ∈ higher, ∀ w, ¬ Defines f context report r k w s' := by
  have hsilent : ∀ s, (Table.ofPairs (written f context report r s)).get? k = none ↔
      ∀ w, ¬ Defines f context report r k w s := fun s => by
    rw [Option.eq_none_iff_forall_ne_some]
    exact forall_congr' fun w => not_congr (get?_written hcontext hextra k w s)
  rw [attributes_eq, Table.get?_ofPairs_flatMap, List.reverse_reverse, List.findSome?_eq_some_iff]
  simp only [get?_written hcontext hextra, hsilent]

theorem keys_attributes (hextra : r.extra.keys.Nodup) : (f.attributes context report r).keys =
    (ranking.reverse.flatMap (keys f context report r)).eraseDups := by
  rw [attributes_eq, Table.keys_ofPairs]
  refine congrArg _ ?_
  rw [Table.keys, List.map_flatMap]
  exact congrArg (ranking.reverse.flatMap ·) (funext fun s => keys_written hextra s)

end EntrySource

theorem LinePoint.lt_ofInt (m n : Int) : (ofInt m).lt (ofInt n) = decide (m < n) := by
  have hscaled : ∀ k : Nat, (point (m * Int.pow 2 k)).lt (point (n * Int.pow 2 k)) =
      decide (m < n) := by
    intro k
    have hscale : 0 < Int.pow 2 k := Int.pow_pos (by decide)
    rw [lt, le, ← decide_not, decide_eq_decide, Int.not_le]
    exact Int.mul_lt_mul_right hscale
  exact hscaled _

namespace LogRecord

variable {r : LogRecord} {k : String}

/-- A record of which no extra field stands for the level is below the levels above its own. -/
theorem isBelow_of_own (h : r.extra.get? "levelno" = none) (level : Int) :
    r.isBelow level = .ok (decide (r.level < level)) := by
  rw [isBelow, standard, h]
  exact congrArg Except.ok (LinePoint.lt_ofInt r.level level)

/-- The record without an extra field. -/
def without (r : LogRecord) (k : String) : LogRecord := { r with extra := r.extra.remove k }

theorem get?_without {name : String} (hk : k ∉ standardFields) (hname : name ∈ standardFields) :
    (r.without k).extra.get? name = r.extra.get? name := by
  have hne : k ≠ name := fun h => hk (h ▸ hname)
  rw [without, Table.get?_remove, if_neg hne]

theorem standard_without {name : String} (hk : k ∉ standardFields) (hname : name ∈ standardFields)
    (own : Value) : (r.without k).standard name own = r.standard name own := by
  rw [standard, standard, get?_without hk hname]

theorem isBelow_without (hk : k ∉ standardFields) (level : Int) :
    (r.without k).isBelow level = r.isBelow level := by
  have hlevel : (r.without k).standard "levelno" (.int (r.without k).level) =
      r.standard "levelno" (.int r.level) := standard_without hk (by decide) _
  rw [isBelow, isBelow, hlevel]

theorem reported_without (hk : k ∉ standardFields) : (r.without k).reported = r.reported := by
  rw [reported, reported, get?_without hk (by decide)]
  rfl

theorem text_without (hk : k ∉ standardFields) (hmaker : k ≠ messageMaker) :
    (r.without k).text = r.text := by
  have hmessage : (r.without k).standard "msg" (r.without k).message = r.standard "msg" r.message :=
    standard_without hk (by decide) _
  have hsupply : (r.without k).supply? = r.supply? := by
    rw [supply?, supply?, get?_without hk (by decide)]
    rfl
  have hkept : (r.without k).extra.get? messageMaker = r.extra.get? messageMaker := by
    rw [without, Table.get?_remove, if_neg hmaker]
  rw [text, text, hmessage, hsupply, hkept]

theorem includable?_without (hk : k ∉ standardFields) (name : String) :
    (r.without k).includable? name = r.includable? name := by
  rw [includable?, includable?, standard_without hk (by decide), standard_without hk (by decide),
    standard_without hk (by decide), standard_without hk (by decide)]
  rfl

theorem scalarExtra_without (hextra : r.extra.keys.Nodup)
    (hscalar : ∀ v, r.extra.get? k = some v → v.isScalar = false) :
    (r.without k).scalarExtra = r.scalarExtra := by
  rw [scalarExtra, without, Table.remove, List.filter_filter]
  refine List.filter_congr fun e he => ?_
  by_cases hk : e.1 = k
  · have hvalue : e.2.isScalar = false :=
      hscalar e.2 (hk ▸ (Table.get?_eq_some_iff hextra).mpr he)
    simp [hvalue]
  · simp [hk]

end LogRecord

namespace EntryFormat

/-- An extra field that is no scalar makes no difference to the entry. -/
theorem entry_without (f : EntryFormat) {r : LogRecord} {k : String} (hextra : r.extra.keys.Nodup)
    (hscalar : ∀ v, r.extra.get? k = some v → v.isScalar = false)
    (hk : k ∉ LogRecord.standardFields) (hmaker : k ≠ LogRecord.messageMaker) :
    f.entry (r.without k) = f.entry r := by
  have hattributes : ∀ context report, f.attributes context report (r.without k) =
      f.attributes context report r := by
    intro context report
    rw [attributes, attributes, LogRecord.scalarExtra_without hextra hscalar,
      funext (LogRecord.includable?_without hk)]
  have hcreated : (r.without k).standard "created" (r.without k).created =
      r.standard "created" r.created := LogRecord.standard_without hk (by decide) _
  have hlevel : (r.without k).levelShown = r.levelShown :=
    LogRecord.standard_without hk (by decide) _
  simp only [entry, LogRecord.reported_without hk, LogRecord.text_without hk hmaker, hattributes,
    hcreated, hlevel]

end EntryFormat

namespace StoringHandler

open EntrySource

/-- A handler stores the entry that it builds of a record. -/
theorem handle_of_entry {h : StoringHandler} {a : Archive LogEntry} {r : LogRecord} {e : LogEntry}
    (hstore : h.store = .archive a) (hreaches : r.isBelow h.level = .ok false)
    (hentry : h.format.entry r = .ok e) :
    handle r h = (.returned (), { h with store := .archive (a.write e) }) := by
  simp [handle, Act.bind_apply, hreaches, Act.ofExcept, EntryFormat.deliver, hentry, Act.orElse,
    Act.within, EntryStore.write, hstore]

/-- **Entry attributes.** A record that reaches the level of a handler and can be worded is stored
as an entry in which each key has the value of the source of the highest rank that defines it, and
just the keys occur that some source defines. They stand in the order in which the sources are
written, each where it is written first. Whether the record has an extra field that is no scalar,
and bears no standard name, makes no difference to what is stored. -/
theorem entry_attributes {h : StoringHandler} {a : Archive LogEntry} {r : LogRecord}
    {context : Table Value} {report : FailureReport} {message : String}
    (hstore : h.store = .archive a) (hreaches : r.isBelow h.level = .ok false)
    (hprovided : h.format.context.getD (.ok []) = .ok context) (hcontext : context.keys.Nodup)
    (hextra : r.extra.keys.Nodup) (hreport : r.reported = .ok report)
    (hmessage : r.text = .ok message) :
    ∃ e : LogEntry, handle r h = (.returned (), { h with store := .archive (a.write e) }) ∧
      (∀ k v, e.attributes.get? k = some v ↔ ∃ higher s lower,
        ranking = higher ++ s :: lower ∧ Defines h.format context report r k v s ∧
          ∀ s' ∈ higher, ∀ w, ¬ Defines h.format context report r k w s') ∧
      (∀ k, k ∈ e.attributes.keys ↔ ∃ s v, Defines h.format context report r k v s) ∧
      e.attributes.keys =
        (ranking.reverse.flatMap (keys h.format context report r)).eraseDups ∧
      ∀ k v, r.extra.get? k = some v → v.isScalar = false → k ∉ LogRecord.standardFields →
        handle (r.without k) h = handle r h := by
  have hentry : h.format.entry r = .ok ⟨r.standard "created" r.created, r.levelShown, message,
      h.format.attributes context report r⟩ := by
    rw [EntryFormat.entry, hprovided, hreport, hmessage]
    rfl
  refine ⟨_, handle_of_entry hstore hreaches hentry, get?_attributes hcontext hextra, fun k => ?_,
    keys_attributes hextra, fun k v hvalue hscalar hk => ?_⟩
  · rw [keys_attributes hextra, List.mem_eraseDups, List.mem_flatMap]
    refine exists_congr fun s => ?_
    rw [mem_keys_iff hcontext hextra, List.mem_reverse]
    exact and_iff_right (mem_ranking s)
  · -- a field that hides what makes the message would have left none
    have hmaker : k ≠ LogRecord.messageMaker := by
      rintro rfl
      rw [LogRecord.text, hvalue] at hmessage
      cases hmessage
    have hnone : ∀ w, r.extra.get? k = some w → w.isScalar = false := fun w hw =>
      Option.some.inj (hvalue.symm.trans hw) ▸ hscalar
    have hsame := h.format.entry_without hextra hnone hk hmaker
    rw [handle_of_entry hstore hreaches hentry, handle_of_entry hstore
      ((LogRecord.isBelow_without hk h.level).trans hreaches) (hsame.trans hentry)]

/-- A context with a key of an included field and one of a failure's. -/
def zoneContext : Table Value :=
  [("zone", .int 1), ("module", .text "pools"), ("exc_type", .bool false)]

/-- A handler that includes two fields, one of them twice, and provides a context. -/
def zoned : StoringHandler where
  format := {
    included := ["module", "lineno", "module", "nothing"]
    context := some (.ok zoneContext) }

/-- A record of a failure, with an extra field that is no scalar and one whose key the failure
defines. -/
def sampledRecord : LogRecord where
  logger := "agentweave"
  level := 30
  message := .text "sampled"
  report := .of (.requested .value (some "empty"))
  extra := [("exc_type", .text "none"), ("zone", .list []), ("pool", .text "old")]

theorem entry_attributes_of_zoned :
    zoned.store = .archive .unbounded ∧ sampledRecord.isBelow zoned.level = .ok false ∧
      zoned.format.context.getD (.ok []) = .ok zoneContext ∧ zoneContext.keys.Nodup ∧
      sampledRecord.extra.keys.Nodup ∧ sampledRecord.text = .ok "sampled" ∧
      ∃ e : LogEntry, handle sampledRecord zoned =
          (.returned (), { zoned with store := .archive (Archive.unbounded.write e) }) ∧
        e.attributes.keys =
          ["module", "lineno", "zone", "exc_type", "pool", "exc_message", "exc_traceback"] ∧
        e.attributes.get? "exc_type" = some (.text "ValueError") ∧
        e.attributes.get? "module" = some (.text "pools") ∧
        e.attributes.get? "zone" = some (.int 1) ∧
        handle (sampledRecord.without "zone") zoned = handle sampledRecord zoned := by
  have hreaches : sampledRecord.isBelow zoned.level = .ok false :=
    LogRecord.isBelow_of_own rfl zoned.level
  have hcontext : zoneContext.keys.Nodup := by decide
  have hextra : sampledRecord.extra.keys.Nodup := by decide
  obtain ⟨e, hstored, hvalue, -, hkeys, hwithout⟩ := entry_attributes (h := zoned)
    (r := sampledRecord) rfl hreaches rfl hcontext hextra rfl rfl
  -- neither of the sources of higher rank defines the key, one of them for want of a scalar
  have hcontextual : ∀ k, k ∈ ["module", "zone"] → ∀ s ∈ [failure, extra], ∀ w,
      ¬ Defines zoned.format zoneContext sampledRecord.report sampledRecord k w s := by
    intro k hk s hs w hdefines
    simp only [List.mem_cons, List.not_mem_nil, or_false] at hk hs
    rcases hs with rfl | rfl
    · rcases hk with rfl | rfl <;> simp [Defines] at hdefines
    · obtain ⟨hget, hscalar, -⟩ := hdefines
      rcases hk with rfl | rfl
      · cases hget
      · cases hget
        cases hscalar
  exact ⟨rfl, hreaches, rfl, hcontext, hextra, rfl, e, hstored, hkeys.trans (by decide),
    (hvalue _ _).mpr ⟨[], .failure, _, rfl, .inl ⟨rfl, _, rfl, rfl⟩, by simp⟩,
    (hvalue _ _).mpr ⟨[.failure, .extra], .context, _, rfl, rfl, hcontextual _ (by simp)⟩,
    (hvalue _ _).mpr ⟨[.failure, .extra], .context, _, rfl, rfl, hcontextual _ (by simp)⟩,
    hwithout "zone" _ rfl rfl (by decide)⟩

end StoringHandler

end AspectAgent
