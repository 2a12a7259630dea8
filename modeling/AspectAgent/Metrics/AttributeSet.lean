import AspectAgent.Act

/-!
# Attribute sets

An attribute set is an ordered set of labels that goes with a measurement. It is built once for each
monitored entity; a cache holds the sets of a fixed list of entities by position.
-/

namespace AspectAgent

/-- An ordered set of labels. Where a value comes from may be noted by a number under its key:
values of one number are one and the same, which makes them equal even if they are not-a-numbers or
opaque. -/
structure AttributeSet where
  entries : Table Value
  numbers : Table Nat := []
  deriving Inhabited

namespace AttributeSet

mutual

/-- The type of the first part of a value that cannot be part of a key. -/
def unhashablePart? : Value → Option String
  | .list _ => some "list"
  | .map _ => some "dict"
  | .tuple items => unhashableItem? items
  | .usage a b c d =>
    (unhashablePart? a <|> unhashablePart? b) <|> (unhashablePart? c <|> unhashablePart? d)
  | _ => none

private def unhashableItem? : List Value → Option String
  | [] => none
  | x :: xs => unhashablePart? x <|> unhashableItem? xs

end

/-- The failure of a value that cannot be part of a key. A part of a memory reading is refused by
the reading, outside of this library. -/
def unhashable? (v : Value) : Option Failure :=
  (unhashablePart? v).map fun t =>
    match v with
    | .usage .. => .outside (.unhashable t)
    | _ => .unhashable t

def checked (s : AttributeSet) : Except Failure AttributeSet :=
  match s.entries.findSome? fun e => unhashable? e.2 with
  | some f => .error f
  | none => .ok s

def of? (items : Table Value) : Except Failure AttributeSet :=
  checked { entries := Table.ofPairs items }

/-- Some entries whose values are numbered from a number on. -/
def numbered (first : Nat) (items : Table Value) : AttributeSet :=
  let entries := Table.ofPairs items
  ⟨entries, entries.zipIdx.map fun e => (e.1.1, first + e.2)⟩

/-- What makes a set, as a failure names it. -/
def maker : String := "AttributeSet.__init__"

/-- The names that keyword labels cannot have: they name what the labels are given with. -/
def reservedLabels : List String := ["self", "items"]

/-- The set over which keyword labels are written. Every value that is left must be hashable. -/
def labelled? (s labels : AttributeSet) : Except Failure AttributeSet :=
  match labels.entries.keys.find? reservedLabels.contains with
  | some name => .error (.callMismatch maker (.repeated name))
  | none => checked ⟨s.entries.putAll labels.entries, s.numbers.putAll labels.numbers⟩

def get (s : AttributeSet) (k : String) : Except Failure Value :=
  match s.entries.get? k with
  | some v => .ok v
  | none => .error (.missingKey k)

/-- Are the values of a key in two sets known to be one and the same? -/
def sharesValue (a b : AttributeSet) (k : String) : Bool :=
  (a.numbers.get? k).isSome && a.numbers.get? k == b.numbers.get? k

/-- Equality of two sets: the same labels with equal values, in the same order. -/
def same (a b : AttributeSet) : Bool :=
  a.entries.length == b.entries.length &&
    (a.entries.zip b.entries).all fun p =>
      p.1.1 == p.2.1 && (a.sharesValue b p.1.1 || p.1.2.same p.2.2)

def shown (s : AttributeSet) : String := "AttributeSet(" ++ (Value.map s.entries).shown ++ ")"

def distinct (sets : List AttributeSet) : List AttributeSet :=
  sets.foldl (fun kept s => if kept.any (same · s) then kept else kept ++ [s]) []

end AttributeSet

/-- What may be compared with an attribute set: another, a plain map, or any other value. -/
inductive Comparand where
  | attributes (s : AttributeSet)
  | plain (v : Value)

namespace Comparand

/-- Equality. A set equals a map with the same labels in any order, and nothing else but sets. -/
def same : Comparand → Comparand → Bool
  | .attributes a, .attributes b => a.same b
  | .attributes a, .plain (.map es) => (Value.map a.entries).same (.map es)
  | .plain (.map es), .attributes b => (Value.map es).same (.map b.entries)
  | .plain v, .plain w => v.same w
  | _, _ => false

/-- Whether the hashes agree, which is asked of two equal sets only. Equal sets have equal hashes.
-/
def hashesAgree? : Comparand → Comparand → Option Bool
  | .attributes a, .attributes b => if a.same b then some true else none
  | _, _ => none

end Comparand

/-- The attribute sets of a fixed list of entities, by position. -/
structure AttributeCache (E : Type) where
  pairs : List (E × AttributeSet)

namespace AttributeCache

variable {E : Type}

/-- The cache of some entities. Each is labelled once, in order. -/
def build {σ : Type} (labels : E → Act σ (Table Value)) (entities : List E) :
    Act σ (AttributeCache E) := do
  let pairs ← Act.collect entities fun e => do
    let set ← Act.ofExcept (AttributeSet.of? (← labels e))
    return (e, set)
  return ⟨pairs⟩

def widestIndex : Int := Int.pow 2 63

/-- The set at an index; a negative index counts from the end. -/
def get (c : AttributeCache E) (index : Int) : Except Failure AttributeSet :=
  if index < -widestIndex || widestIndex ≤ index then .error .positionTooWide
  else
    let i := if index < 0 then index + c.pairs.length else index
    if i < 0 then .error .positionOutOfRange
    else
      match c.pairs[i.toNat]? with
      | some p => .ok p.2
      | none => .error .positionOutOfRange

end AttributeCache

end AspectAgent
