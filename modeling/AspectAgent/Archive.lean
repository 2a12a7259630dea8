import AspectAgent.Failure

/-!
# Archives

An archive keeps what is written to it, in the order of writing. An unbounded one keeps everything,
a ring keeps the last `n` items.
-/

namespace AspectAgent

/-- Items in the order of writing, and how many of them are kept at most. -/
structure Archive (α : Type) where
  capacity : Option Nat := none
  items : List α := []
  deriving Inhabited

namespace Archive

variable {α : Type}

def lastOf (n : Nat) (xs : List α) : List α := xs.drop (xs.length - n)

def unbounded : Archive α := {}

def maxCapacity : Int := Int.pow 2 63 - 1

/-- An archive that keeps the last items; its capacity must be positive. -/
def ring? (capacity : Int) : Except Failure (Archive α) :=
  if capacity ≤ 0 then .error .capacityNotPositive
  else if maxCapacity < capacity then .error .capacityTooLarge
  else .ok { capacity := some capacity.toNat }

/-- Writes an item; a full ring drops its oldest one. -/
def write (a : Archive α) (x : α) : Archive α :=
  match a.capacity with
  | none => { a with items := a.items ++ [x] }
  | some n => { a with items := lastOf n (a.items ++ [x]) }

def writeAll (a : Archive α) (xs : List α) : Archive α := xs.foldl write a

theorem lastOf_append_singleton (n : Nat) (xs : List α) (x : α) :
    lastOf n (lastOf n xs ++ [x]) = lastOf n (xs ++ [x]) := by
  simp only [lastOf, List.length_append, List.length_drop, List.length_singleton]
  by_cases h : xs.length ≤ n
  · have h0 : xs.length - n = 0 := by omega
    simp [h0]
  · have hk : xs.length - n ≤ xs.length := Nat.sub_le ..
    rw [← List.drop_append_of_le_length hk, List.drop_drop]
    congr 1
    omega

@[simp] theorem capacity_write (a : Archive α) (x : α) : (a.write x).capacity = a.capacity := by
  unfold write
  split <;> simp [*]

theorem items_writeAll_of_unbounded {a : Archive α} (h : a.capacity = none) (xs : List α) :
    (a.writeAll xs).items = a.items ++ xs := by
  induction xs generalizing a with
  | nil => simp [writeAll]
  | cons x rest ih =>
    have hx : (a.write x).capacity = none := by simp [h]
    show ((a.write x).writeAll rest).items = _
    rw [ih hx]
    simp [write, h]

theorem items_writeAll_of_ring {a : Archive α} {n : Nat} {kept : List α}
    (h : a.capacity = some n) (hk : a.items = lastOf n kept) (xs : List α) :
    (a.writeAll xs).items = lastOf n (kept ++ xs) := by
  induction xs generalizing a kept with
  | nil => simpa [writeAll] using hk
  | cons x rest ih =>
    have hx : (a.write x).capacity = some n := by simp [h]
    have hw : (a.write x).items = lastOf n (kept ++ [x]) := by
      simp [write, h, hk, lastOf_append_singleton]
    show ((a.write x).writeAll rest).items = _
    rw [ih hx hw]
    simp

end Archive

end AspectAgent
