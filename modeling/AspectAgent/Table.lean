/-!
# Ordered tables

A table is a list of keyed entries in the order in which the keys were first written. Writing to a
key that is present keeps its place and replaces its value.
-/

namespace AspectAgent

/-- Entries by text key, in the order of their first writing. -/
abbrev Table (α : Type) := List (String × α)

namespace Table

variable {α : Type}

def get? (t : Table α) (k : String) : Option α :=
  match t with
  | [] => none
  | (j, v) :: rest => if j = k then some v else get? rest k

def has (t : Table α) (k : String) : Bool := (t.get? k).isSome

/-- Writes an entry: in place if the key is present, else at the end. -/
def put (t : Table α) (k : String) (v : α) : Table α :=
  match t with
  | [] => [(k, v)]
  | (j, w) :: rest => if j = k then (j, v) :: rest else (j, w) :: put rest k v

def putAll (t : Table α) (entries : List (String × α)) : Table α :=
  entries.foldl (fun t e => t.put e.1 e.2) t

/-- The table that a sequence of writes leaves. -/
def ofPairs (entries : List (String × α)) : Table α := putAll [] entries

def remove (t : Table α) (k : String) : Table α := t.filter fun e => e.1 ≠ k

def keys (t : Table α) : List String := t.map (·.1)

def values (t : Table α) : List α := t.map (·.2)

@[simp] theorem get?_nil (k : String) : get? ([] : Table α) k = none := rfl

theorem get?_put (t : Table α) (k j : String) (v : α) :
    (t.put k v).get? j = if k = j then some v else t.get? j := by
  induction t with
  | nil => simp [put, get?]
  | cons e rest ih =>
    obtain ⟨i, w⟩ := e
    by_cases hik : i = k
    · subst hik
      by_cases hij : i = j <;> simp [put, get?, hij]
    · by_cases hij : i = j
      · subst hij
        simp [put, get?, hik, Ne.symm hik]
      · simp [put, get?, hik, hij, ih]

theorem keys_put (t : Table α) (k : String) (v : α) :
    (t.put k v).keys = if k ∈ t.keys then t.keys else t.keys ++ [k] := by
  induction t with
  | nil => simp [put, keys]
  | cons e rest ih =>
    obtain ⟨i, w⟩ := e
    simp only [keys] at ih
    by_cases hik : i = k
    · subst hik
      simp [put, keys]
    · have hki : ¬ k = i := fun h => hik h.symm
      simp only [put, keys, hik, if_false, List.map_cons, ih, List.mem_cons, hki, false_or]
      split <;> simp [*]

theorem nodup_keys_put {t : Table α} (h : t.keys.Nodup) (k : String) (v : α) :
    (t.put k v).keys.Nodup := by
  rw [keys_put]
  split
  · exact h
  · rename_i hk
    refine List.nodup_append.mpr ⟨h, by simp, ?_⟩
    intro a ha b hb hab
    rw [List.mem_singleton] at hb
    exact hk (hb ▸ hab ▸ ha)

/-- In a table that writes have made no key occurs twice. -/
theorem nodup_keys_ofPairs (entries : List (String × α)) : (ofPairs entries).keys.Nodup := by
  have hputAll : ∀ t : Table α, t.keys.Nodup → (t.putAll entries).keys.Nodup := by
    induction entries with
    | nil => exact fun t ht => ht
    | cons e rest ih => exact fun t ht => ih _ (nodup_keys_put ht e.1 e.2)
  exact hputAll [] List.nodup_nil

theorem get?_remove (t : Table α) (k j : String) :
    (t.remove k).get? j = if k = j then none else t.get? j := by
  induction t with
  | nil => simp [remove]
  | cons e rest ih =>
    obtain ⟨i, v⟩ := e
    simp only [remove] at ih
    by_cases hik : i = k
    · subst hik
      by_cases hij : i = j
      · subst hij
        simpa [remove] using ih
      · simpa [remove, get?, hij] using ih
    · by_cases hij : i = j
      · subst hij
        simp [remove, get?, hik, Ne.symm hik]
      · simpa [remove, get?, hik, hij] using ih

variable {t : Table α} {k : String}

theorem has_iff_mem_keys : t.has k = true ↔ k ∈ t.keys := by
  induction t with
  | nil => simp [has, keys]
  | cons e rest ih =>
    obtain ⟨i, v⟩ := e
    simp only [has, keys] at ih
    by_cases hik : i = k
    · simp [has, get?, keys, hik]
    · simpa [has, get?, keys, hik, Ne.symm hik] using ih

theorem get?_of_not_has (h : t.has k = false) : t.get? k = none := by
  simpa [has] using h

theorem ne_of_not_has (h : t.has k = false) {e : String × α} (he : e ∈ t) : e.1 ≠ k := by
  rintro rfl
  have hmem : e.1 ∈ t.keys := List.mem_map_of_mem he
  rw [← has_iff_mem_keys, h] at hmem
  exact Bool.false_ne_true hmem

theorem remove_of_not_has (h : t.has k = false) : t.remove k = t :=
  List.filter_eq_self.mpr fun e he => by simpa using ne_of_not_has h he

theorem get?_isSome_of_mem_keys (h : k ∈ t.keys) : ∃ v, t.get? k = some v :=
  Option.isSome_iff_exists.mp (has_iff_mem_keys.mpr h)

end Table

end AspectAgent
