import AspectAgent.Number.ShortestDecimal
import AspectAgent.Text.Blank
import AspectAgent.Text.DecimalDigit

/-!
# Numbers read from text

A number is written with a sign or without, in decimal digits of any script with at most one point
among them, and with a decimal exponent or without. A single underscore may stand between two
digits, and white space around the whole. Infinity and not-a-number have names, in capitals or small
letters. `Binary64.ofText?` reads the number nearest to what is written, a half going to the even
neighbour.
-/

namespace AspectAgent

namespace DecimalText

/-- Is there a minus at the start, and what follows the sign. -/
def splitSign : List Char → Bool × List Char
  | '-' :: rest => (true, rest)
  | '+' :: rest => (false, rest)
  | s => (false, s)

/-- Leaves out the underscores, each of which must stand between two digits. -/
def dropSeparators : List Char → Option (List Char)
  | [] => some []
  | '_' :: _ => none
  | a :: '_' :: b :: rest =>
    if a.isDigit && b.isDigit then (dropSeparators (b :: rest)).map (a :: ·) else none
  | c :: rest => (dropSeparators rest).map (c :: ·)

def natOf (digits : List Char) : Nat :=
  digits.foldl (fun n c => 10 * n + (c.toNat - '0'.toNat)) 0

/-- The exponent after the digits; nothing at all is zero. -/
def exponent? : List Char → Option Int
  | [] => some 0
  | c :: rest =>
    let (negative, digits) := splitSign rest
    if c.toLower != 'e' || digits.isEmpty || !digits.all Char.isDigit then none
    else some (if negative then -(natOf digits : Int) else natOf digits)

/-- The decimal that a text without a sign denotes. There must be a digit before or after the
point. -/
def decimal? (s : List Char) : Option Binary64.Decimal :=
  let whole := s.takeWhile Char.isDigit
  let (places, rest) := match s.dropWhile Char.isDigit with
    | '.' :: rest => (rest.takeWhile Char.isDigit, rest.dropWhile Char.isDigit)
    | rest => ([], rest)
  if whole.isEmpty && places.isEmpty then none
  else (exponent? rest).map fun e => ⟨natOf (whole ++ places), e - (places.length : Int)⟩

end DecimalText

namespace Binary64

/-- The bits of the magnitude nearest to a quotient. The quotient is cut off after three bits more
than the finest numbers have, and its last bit is set if anything was cut off, which leaves the
rounding unchanged. -/
def nearestQuotientBits (numerator denominator : Nat) : Nat :=
  let scaled := numerator * Nat.pow 2 1076
  let rest := if scaled % denominator = 0 then 0 else 1
  nearestBits (2 * (scaled / denominator) + rest) 3

/-- A power of ten that is larger than every number, and whose inverse is less than half the
smallest positive one. -/
def widestPower : Int := 330

/-- The bits of the magnitude nearest to a decimal. A decimal outside the range of all numbers is
decided by its power alone. -/
def Decimal.nearestBits (d : Decimal) : Nat :=
  let power := ((Nat.toDigits 10 d.digits).length : Int) + d.power
  if d.digits = 0 || power < -widestPower then 0
  else if widestPower < power then infinityBits
  else nearestQuotientBits (d.digits * Nat.pow 10 d.power.toNat) (Nat.pow 10 (-d.power).toNat)

def ofText? (s : String) : Option Binary64 := do
  let plain := (Text.trimWhile Text.isSpace s.toList).map Text.asciiDigit
  let written ← DecimalText.dropSeparators plain
  let (negative, magnitude) := DecimalText.splitSign written
  let word := String.ofList (Text.lowerAscii magnitude)
  if word = "inf" || word = "infinity" then ofSigned negative infinityBits
  else if word = "nan" then notANumber
  else (DecimalText.decimal? magnitude).map fun d => ofSigned negative d.nearestBits

end Binary64

end AspectAgent
