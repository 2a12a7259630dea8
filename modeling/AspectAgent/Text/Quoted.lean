import AspectAgent.Text.Printable

/-!
# Quoted text

Text is quoted with single quotes, or with double quotes when it holds a single quote and no double
one. The backslash, the quote in use and the three common control characters get a backslash escape,
and any other character that is not printable is written by its code point in hexadecimal.
-/

namespace AspectAgent.Text

/-- The lower-case hexadecimal digits of `n`, padded with zeros to `width`. -/
def hexadecimal (width n : Nat) : List Char :=
  let digits := Nat.toDigits 16 n
  List.replicate (width - digits.length) '0' ++ digits

def quoteFor (s : List Char) : Char :=
  if s.contains '\'' && !s.contains '"' then '"' else '\''

def codePoint (c : Char) : List Char :=
  if c.toNat < 0x100 then '\\' :: 'x' :: hexadecimal 2 c.toNat
  else if c.toNat < 0x10000 then '\\' :: 'u' :: hexadecimal 4 c.toNat
  else '\\' :: 'U' :: hexadecimal 8 c.toNat

def escaped (quote c : Char) : List Char :=
  if c = '\\' || c = quote then ['\\', c]
  else if c = '\n' then ['\\', 'n']
  else if c = '\r' then ['\\', 'r']
  else if c = '\t' then ['\\', 't']
  else if isPrintable c then [c]
  else codePoint c

def quoted (s : String) : String :=
  let cs := s.toList
  let q := quoteFor cs
  String.ofList (q :: cs.flatMap (escaped q) ++ [q])

/-- The part before the last dot; empty if there is no dot. -/
def beforeLastDot (s : List Char) : List Char :=
  ((s.reverse.dropWhile (· ≠ '.')).drop 1).reverse

end AspectAgent.Text
