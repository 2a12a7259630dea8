import AspectAgent.Failure
import AspectAgent.Number.DecimalText

/-!
# Readings

A reading is usable as a measurement if it is a number: truth values and not-a-numbers are refused.
The number minus one, of whatever type, stands for a field that a source has no value for. A memory
reading has four fields, each of which may be any value.
-/

namespace AspectAgent

/-- A field of a memory reading. -/
inductive MemoryField where
  | init
  | used
  | committed
  | max
  deriving DecidableEq, Repr, Inhabited

namespace MemoryField

def name : MemoryField → String
  | .init => "init"
  | .used => "used"
  | .committed => "committed"
  | .max => "max"

def ofName? (s : String) : Option MemoryField :=
  [init, used, committed, max].find? fun f => f.name == s

/-- The field of a memory reading; other values have none. -/
def of (f : MemoryField) : Value → Except Failure Value
  | .usage i u c m =>
    .ok (match f with
      | .init => i
      | .used => u
      | .committed => c
      | .max => m)
  | v => .error (.noMember v f.name)

end MemoryField

namespace Value

/-- What a source reports for a field it has no value for. -/
def unavailable : Value := .int (-1)

/-- The memory reading of some fields, in the order init, used, committed, max; the others have no
value. -/
def usageOf (fields : List Value) : Value :=
  .usage (fields.getD 0 unavailable) (fields.getD 1 unavailable) (fields.getD 2 unavailable)
    (fields.getD 3 unavailable)

/-- The memory reading of some fields, of which there are no more than four. -/
def usageOf? (fields : List Value) : Except Failure Value :=
  if fields.length ≤ 4 then .ok (usageOf fields)
  else .error (.callMismatch "MemoryUsage.__init__" (.surplus 1 5 (fields.length + 1) 0))

def isUnavailable (v : Value) : Bool := v.same unavailable

/-- A reading that is a usable number. -/
def usable : Value → Except Failure Value
  | .int n => .ok (.int n)
  | .float x => if x.isNaN then .error .readingNaN else .ok (.float x)
  | v => .error (.readingNotNumber v.typeName)

/-- A value as a floating-point number: integers are rounded to the nearest, truth values are one
and zero, and text is read. -/
def toBinary64 : Value → Except Failure Binary64
  | .bool b => .ok (if b then .one else .zero)
  | .int n => Failure.ifNone .integerTooLarge (Binary64.ofInt? n)
  | .float x => .ok x
  | .text s => Failure.ifNone (.textNotConvertible s) (Binary64.ofText? s)
  | v => .error (.notConvertible v.typeName)

end Value

end AspectAgent
