import AspectAgent.Failure
import AspectAgent.Number.DecimalNotation

/-!
# Conversions of a message template

A conversion turns one argument into text: its plain or printed form, a character, a whole number in
a base, or a number in fixed, scientific or general notation. Flags tell the side of the padding,
whether zeros fill it, and what stands before a number that is not negative.
-/

namespace AspectAgent

/-- The flags of a conversion. -/
structure ConversionFlags where
  /-- Marks the base of a whole number and keeps the point of other numbers. -/
  alternate : Bool := false
  leftAligned : Bool := false
  /-- Writes a plus before a number that is not negative. -/
  plus : Bool := false
  /-- Writes a space there. -/
  space : Bool := false
  zeroFilled : Bool := false
  deriving DecidableEq, Repr, Inhabited

/-- A text in parts: what stands before the zeros that may fill it up, and what stands after them.
-/
structure FilledText where
  before : List Char := []
  after : List Char
  takesZeros : Bool := false

namespace Conversion

def fault {α : Type} (kind : FailureKind) : Except Failure α := .error (.template kind)

def padded (f : ConversionFlags) (width : Nat) (t : FilledText) : List Char :=
  let missing := width - (t.before.length + t.after.length)
  if f.leftAligned then t.before ++ t.after ++ List.replicate missing ' '
  else if f.zeroFilled && t.takesZeros then t.before ++ Binary64.zeros missing ++ t.after
  else List.replicate missing ' ' ++ t.before ++ t.after

def sign (f : ConversionFlags) (negative : Bool) : List Char :=
  if negative then ['-'] else if f.plus then ['+'] else if f.space then [' '] else []

/-- An argument as a whole number. A floating-point number is cut off toward zero, but has no digits
in another base than ten. -/
def whole (base : Nat) : Value → Except Failure Int
  | .bool b => .ok (if b then 1 else 0)
  | .int n => .ok n
  | .float x =>
    if base ≠ 10 then fault .type
    else if x.isNaN then fault .value
    else if x.isInfinite then fault .overflow
    else .ok (x.scaled.tdiv (Int.pow 2 1074))
  | _ => fault .type

def real : Value → Except Failure Binary64
  | .bool b => .ok (if b then .one else .zero)
  | .int n =>
    match Binary64.ofInt? n with
    | some x => .ok x
    | none => fault .overflow
  | .float x => .ok x
  | _ => fault .type

/-- A whole number in a base, with at least as many digits as the precision. -/
def wholeText (f : ConversionFlags) (base : Nat) (mark : String) (precision : Option Nat)
    (n : Int) :
    FilledText :=
  let digits := Nat.toDigits base n.natAbs
  { before := sign f (decide (n < 0)) ++ (if f.alternate then mark.toList else [])
    after := Binary64.zeros (precision.getD 0 - digits.length) ++ digits
    takesZeros := true }

def realText (f : ConversionFlags) (write : Binary64 → Bool → List Char) (x : Binary64) :
    FilledText :=
  { before := sign f (x.isNegative && !x.isNaN)
    after :=
      if x.isNaN then "nan".toList
      else if x.isInfinite then "inf".toList
      else write x f.alternate
    takesZeros := true }

/-- An argument as a character: a text of one, or the code point of one. -/
def character : Value → Except Failure Char
  | .text s =>
    match s.toList with
    | [c] => .ok c
    | _ => fault .type
  | .bool b => .ok (Char.ofNat (if b then 1 else 0))
  | .int n =>
    if n < 0 || 0x110000 ≤ n then fault .overflow
    else .ok (Char.ofNat n.toNat)
  | _ => fault .type

/-- A text in which characters outside ASCII are written by their code points. -/
def ascii (s : String) : List Char :=
  s.toList.flatMap fun c => if c.toNat < 0x7f then [c] else Text.codePoint c

def capitals (t : FilledText) : FilledText :=
  { t with before := t.before.map Char.toUpper, after := t.after.map Char.toUpper }

def defaultPlaces : Nat := 6

def convert (f : ConversionFlags) (precision : Option Nat) (letter : Char) (v : Value) :
    Except Failure FilledText :=
  let cut := fun s : List Char => { after := match precision with | some n => s.take n | none => s }
  let places := precision.getD defaultPlaces
  let real := fun write => (real v).map (realText f write)
  let whole := fun base mark => (whole base v).map (wholeText f base mark precision)
  match letter with
  | 's' => .ok (cut v.plain.toList)
  | 'r' => .ok (cut v.shown.toList)
  | 'a' => .ok (cut (ascii v.shown))
  | 'c' => (character v).map fun c => { after := [c] }
  | 'd' | 'i' | 'u' => whole 10 ""
  | 'o' => whole 8 "0o"
  | 'x' => whole 16 "0x"
  | 'X' => (whole 16 "0x").map capitals
  | 'f' => real (·.fixed places)
  | 'F' => (real (·.fixed places)).map capitals
  | 'e' => real (·.scientific places)
  | 'E' => (real (·.scientific places)).map capitals
  | 'g' => real (·.general (max 1 places))
  | 'G' => (real (·.general (max 1 places))).map capitals
  | _ => fault .value

end Conversion

end AspectAgent
