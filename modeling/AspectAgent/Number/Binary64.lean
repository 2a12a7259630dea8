/-!
# Binary floating-point numbers of sixty-four bits

A number is held by its bits, so two zeros stay apart and every comparison is exact. A finite number
is an integer multiple of `2 ^ -1074`; `Binary64.scaled` is that multiple. `LinePoint` adds the two
ends to the line, so that integers of any size and floating-point numbers are compared by value, and
`Binary64.nearestBits` rounds to the nearest number, a half going to the even neighbour.
-/

namespace AspectAgent

/-- A binary floating-point number, held by its sixty-four bits. -/
structure Binary64 where
  bits : UInt64
  deriving DecidableEq, Repr, Inhabited

namespace Binary64

def exponentField (x : Binary64) : Nat := x.bits.toNat / Nat.pow 2 52 % Nat.pow 2 11

def fraction (x : Binary64) : Nat := x.bits.toNat % Nat.pow 2 52

def isNegative (x : Binary64) : Bool := decide (Nat.pow 2 63 ≤ x.bits.toNat)

/-- Not a number: the exponent is all ones and the fraction is not zero. -/
def isNaN (x : Binary64) : Bool := x.exponentField == 2047 && x.fraction != 0

def isInfinite (x : Binary64) : Bool := x.exponentField == 2047 && x.fraction == 0

def isZero (x : Binary64) : Bool := x.exponentField == 0 && x.fraction == 0

/-- The significand of a finite number, hidden bit included. -/
def significand (x : Binary64) : Nat :=
  if x.exponentField = 0 then x.fraction else Nat.pow 2 52 + x.fraction

/-- The magnitude of a finite number as a multiple of `2 ^ -1074`. The exponent fields zero and one
share a scale. -/
def scaledMagnitude (x : Binary64) : Nat := x.significand * Nat.pow 2 (x.exponentField - 1)

/-- A finite number as a multiple of `2 ^ -1074`. -/
def scaled (x : Binary64) : Int :=
  if x.isNegative then -(x.scaledMagnitude : Int) else x.scaledMagnitude

/-- The quotient rounded to the nearest integer, a half going to the even neighbour. -/
def roundedQuotient (n d : Nat) : Nat :=
  let quotient := n / d
  let twice := 2 * (n % d)
  if d < twice || (twice == d && quotient % 2 == 1) then quotient + 1 else quotient

/-- The bits of the magnitude nearest to `a · 2 ^ -(1074 + k)`, a half going to the even neighbour.
The result is at least the bits of infinity if that rounds to `2 ^ 1024` or more. A unit in the last
place of the result is `2 ^ (shift - k)` times `2 ^ -1074`, and a significand that is rounded up
beyond its largest value carries over into the exponent. -/
def nearestBits (a k : Nat) : Nat :=
  let shift := max k (Nat.log2 a - 52)
  (shift - k) * Nat.pow 2 52 + roundedQuotient a (Nat.pow 2 shift)

def infinityBits : Nat := 2047 * Nat.pow 2 52

/-- The number of a sign and the bits of a magnitude; bits above those of infinity mean infinity. -/
def ofSigned (negative : Bool) (magnitude : Nat) : Binary64 :=
  ⟨UInt64.ofNat ((if negative then Nat.pow 2 63 else 0) + min infinityBits magnitude)⟩

/-- The number nearest to an integer, a half going to the even neighbour; none if it is too large.
-/
def ofInt? (n : Int) : Option Binary64 :=
  let magnitude := nearestBits (n.natAbs * Nat.pow 2 1074) 0
  if infinityBits ≤ magnitude then none else some (ofSigned (decide (n < 0)) magnitude)

/-- The number nearest to one less than a number. -/
def predecessor (x : Binary64) : Binary64 :=
  if x.isNaN || x.isInfinite then x
  else
    let less := x.scaled - Int.pow 2 1074
    ofSigned (decide (less < 0)) (nearestBits less.natAbs 0)

def one : Binary64 := ⟨0x3ff0000000000000⟩

def notANumber : Binary64 := ⟨0x7ff8000000000000⟩

def zero : Binary64 := ⟨0⟩

end Binary64

/-- A point of the number line with both ends added. `point k` is the number `k · 2 ^ -1074`. -/
inductive LinePoint where
  | bottom
  | point (scaled : Int)
  | top
  deriving DecidableEq, Repr

namespace LinePoint

def le : LinePoint → LinePoint → Bool
  | .bottom, _ => true
  | _, .top => true
  | .point a, .point b => decide (a ≤ b)
  | _, _ => false

def lt (a b : LinePoint) : Bool := !le b a

def ofInt (n : Int) : LinePoint := .point (n * Int.pow 2 1074)

/-- The point of a floating-point number; none if it is not a number. -/
def ofBinary64? (x : Binary64) : Option LinePoint :=
  if x.isNaN then none
  else if x.isInfinite then some (if x.isNegative then .bottom else .top)
  else some (.point x.scaled)

theorem ofInt_inj {m n : Int} : ofInt m = ofInt n ↔ m = n := by
  have scaled : ∀ k : Nat, point (m * Int.pow 2 k) = point (n * Int.pow 2 k) ↔ m = n := by
    intro k
    have hscale : Int.pow 2 k ≠ 0 := by
      show (2 : Int) ^ k ≠ 0
      exact Int.pow_ne_zero (by decide)
    rw [point.injEq]
    exact Int.mul_eq_mul_right_iff hscale
  unfold ofInt
  exact scaled _

theorem le_total (a b : LinePoint) : (le a b || le b a) = true := by
  cases a <;> cases b <;> simp [le]
  omega

theorem le_trans {a b c : LinePoint} (hab : le a b = true) (hbc : le b c = true) :
    le a c = true := by
  cases a <;> cases b <;> cases c <;> simp_all [le]
  omega

end LinePoint

end AspectAgent
