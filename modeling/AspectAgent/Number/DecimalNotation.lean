import AspectAgent.Number.ShortestDecimal

/-!
# Decimal notation with a given number of digits

The magnitude of a finite number is rounded to a number of places after the point, or to a number of
significant digits, an exact half going to the even digit, and then written in fixed notation, in
scientific notation with one digit before the point, or in the general notation, which is fixed for
exponents from `-4` up to the number of digits and leaves out trailing zeros.
-/

namespace AspectAgent.Binary64

/-- The magnitude as a multiple of `10 ^ -places`. -/
def fixedDigits (x : Binary64) (places : Nat) : Nat :=
  roundedQuotient (x.scaledMagnitude * Nat.pow 10 places) (Nat.pow 2 1074)

/-- The magnitude rounded to `n + 1` significant digits, and the power of the first of them. -/
def significantDigits (x : Binary64) (n : Nat) : Nat × Int :=
  if x.isZero then (0, 0)
  else
    let e := x.decimalExponent
    let up := (n : Int) - e
    let digits :=
      roundedQuotient (x.scaledMagnitude * Nat.pow 10 up.toNat)
        (Nat.pow 2 1074 * Nat.pow 10 (-up).toNat)
    if digits = Nat.pow 10 (n + 1) then (Nat.pow 10 n, e + 1) else (digits, e)

/-- Digits with a point before the last `places` of them. A point with nothing after it is written
only if it is to be kept. -/
def pointed (digits places : Nat) (keepPoint : Bool) : List Char :=
  let written := Nat.toDigits 10 digits
  let padded := zeros (places + 1 - written.length) ++ written
  let whole := padded.length - places
  padded.take whole ++ (if places = 0 && !keepPoint then [] else '.' :: padded.drop whole)

/-- Digits with a point in them, without the zeros at the end and a point that they leave there. -/
def withoutTrailingZeros (s : List Char) : List Char :=
  if s.contains '.' then
    let kept := s.reverse.dropWhile (· == '0')
    (if kept.head? = some '.' then kept.drop 1 else kept).reverse
  else s

def fixed (x : Binary64) (places : Nat) (keepPoint : Bool) : List Char :=
  pointed (x.fixedDigits places) places keepPoint

def scientific (x : Binary64) (places : Nat) (keepPoint : Bool) : List Char :=
  let (digits, e) := x.significantDigits places
  pointed digits places keepPoint ++ exponentText e

/-- General notation with a number of significant digits, of which there is at least one. With the
point, trailing zeros are kept as well. -/
def general (x : Binary64) (count : Nat) (keepPoint : Bool) : List Char :=
  let places := count - 1
  let (digits, e) := x.significantDigits places
  let finish := fun s => if keepPoint then s else withoutTrailingZeros s
  if -4 ≤ e && e ≤ (places : Int) then finish (pointed digits ((places : Int) - e).toNat keepPoint)
  else finish (pointed digits places keepPoint) ++ exponentText e

end AspectAgent.Binary64
