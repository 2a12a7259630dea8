import AspectAgent.Number.Binary64

/-!
# Shortest decimal text of a floating-point number

The digits are the fewest that read back as the same number, and of those the nearest to it, an
exact tie going to the even digit. They are written positionally while the decimal exponent is at
least `-4` and below `16`, and with an exponent of at least two digits otherwise.
-/

namespace AspectAgent.Binary64

/-- A decimal `digits · 10 ^ power`. -/
structure Decimal where
  digits : Nat
  power : Int
  deriving DecidableEq, Repr

/-- The reals that round to a number, in units of `2 ^ -1076`. -/
structure RoundingInterval where
  low : Nat
  value : Nat
  high : Nat
  closed : Bool

/-- The interval that rounds to a positive finite number: half a gap to each side, and the gap below
a power of two is half as wide. The ends belong to it when the significand is even. -/
def roundingInterval (x : Binary64) : RoundingInterval :=
  let unit := Nat.pow 2 (x.exponentField - 1)
  let value := 4 * x.scaledMagnitude
  let narrow := x.fraction == 0 && 1 < x.exponentField
  { low := value - (if narrow then unit else 2 * unit)
    value := value
    high := value + 2 * unit
    closed := x.significand % 2 == 0 }

/-- Numerator and denominator that compare `d · 10 ^ power` with `v` units of `2 ^ -1076`. -/
private def onGrid (power : Int) (v : Nat) : Nat × Nat :=
  if 0 ≤ power then (v, Nat.pow 10 power.toNat * Nat.pow 2 1076)
  else (v * Nat.pow 10 (-power).toNat, Nat.pow 2 1076)

/-- Does `d · 10 ^ power` lie in the interval? -/
private def RoundingInterval.holds (i : RoundingInterval) (d : Nat) (power : Int) : Bool :=
  let (low, unit) := onGrid power i.low
  let (high, _) := onGrid power i.high
  if i.closed then low ≤ d * unit && d * unit ≤ high else low < d * unit && d * unit < high

/-- The point of the grid `10 ^ power` in the interval that is nearest to the value. -/
private def RoundingInterval.nearest? (i : RoundingInterval) (power : Int) : Option Decimal :=
  let (value, unit) := onGrid power i.value
  let below := value / unit
  let above := below + 1
  match i.holds below power && below != 0, i.holds above power with
  | false, false => none
  | true, false => some ⟨below, power⟩
  | false, true => some ⟨above, power⟩
  | true, true =>
    let left := value - below * unit
    let right := above * unit - value
    if left < right || (left == right && below % 2 == 0) then some ⟨below, power⟩
    else some ⟨above, power⟩

/-- The decimal exponent of a positive finite number: the power of its leading digit. -/
def decimalExponent (x : Binary64) : Int :=
  let whole := x.scaledMagnitude / Nat.pow 2 1074
  if 0 < whole then ((Nat.toDigits 10 whole).length : Int) - 1
  else
    match (List.range 330).find? fun j =>
        decide (Nat.pow 2 1074 ≤ x.scaledMagnitude * Nat.pow 10 (j + 1)) with
    | some j => -((j : Int) + 1)
    | none => -330

/-- The shortest decimal that reads back as a positive finite number. Seventeen digits always do. -/
def shortest (x : Binary64) : Decimal :=
  let i := x.roundingInterval
  let e := x.decimalExponent
  match (List.range 17).findSome? fun (n : Nat) => i.nearest? (e - (n : Int)) with
  | some d => d
  | none => ⟨0, 0⟩

/-- Digits without trailing zeros, and the power of the leading digit. -/
private def Decimal.normal (d : Decimal) : List Char × Int :=
  let digits := Nat.toDigits 10 d.digits
  let kept := (digits.reverse.dropWhile (· == '0')).reverse
  (kept, d.power + (digits.length : Int) - 1)

def zeros (n : Nat) : List Char := List.replicate n '0'

/-- A decimal exponent with its sign and at least two digits. -/
def exponentText (e : Int) : List Char :=
  let power := Nat.toDigits 10 e.natAbs
  ['e', if e < 0 then '-' else '+'] ++ zeros (2 - power.length) ++ power

/-- Positional notation between `10 ^ -4` and `10 ^ 16`, else a digit, a point and an exponent. -/
private def render (digits : List Char) (e : Int) : List Char :=
  if 0 ≤ e && e < 16 then
    let whole := e.toNat + 1
    let padded := digits ++ zeros (whole - digits.length)
    let rest := padded.drop whole
    padded.take whole ++ ['.'] ++ (if rest.isEmpty then ['0'] else rest)
  else if -4 ≤ e && e < 0 then ['0', '.'] ++ zeros ((-e).toNat - 1) ++ digits
  else
    let mantissa :=
      match digits with
      | [] => []
      | [d] => [d]
      | d :: rest => d :: '.' :: rest
    mantissa ++ exponentText e

def text (x : Binary64) : String :=
  if x.isNaN then "nan"
  else
    let sign := if x.isNegative then "-" else ""
    if x.isInfinite then sign ++ "inf"
    else if x.isZero then sign ++ "0.0"
    else
      let (digits, e) := x.shortest.normal
      sign ++ String.ofList (render digits e)

end AspectAgent.Binary64
