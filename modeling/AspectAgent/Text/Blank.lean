/-!
# White space and trimming

White space is the Unicode property `White_Space` with the four information separators added.
Trimming removes it from both ends and nothing else.
-/

namespace AspectAgent.Text

/-- The Unicode property `White_Space`. -/
def isSpace (c : Char) : Bool :=
  let n := c.toNat
  (decide (0x09 ≤ n) && decide (n ≤ 0x0d)) || n == 0x20 || n == 0x85 || n == 0xa0 || n == 0x1680 ||
    (decide (0x2000 ≤ n) && decide (n ≤ 0x200a)) || n == 0x2028 || n == 0x2029 || n == 0x202f ||
    n == 0x205f || n == 0x3000

/-- White space: the `White_Space` property and the information separators `U+001C` to `U+001F`. -/
def isBlank (c : Char) : Bool :=
  isSpace c || (decide (0x1c ≤ c.toNat) && decide (c.toNat ≤ 0x1f))

/-- The characters without those of a class at both ends. -/
def trimWhile (p : Char → Bool) (s : List Char) : List Char :=
  ((s.dropWhile p).reverse.dropWhile p).reverse

def trimChars (s : List Char) : List Char := trimWhile isBlank s

def trim (s : String) : String := String.ofList (trimChars s.toList)

/-- The pieces of a list between the elements equal to `sep`; one more than there are separators. -/
def splitChars (sep : Char) : List Char → List (List Char)
  | [] => [[]]
  | c :: rest =>
    match splitChars sep rest with
    | [] => [[c]]
    | piece :: pieces => if c = sep then [] :: piece :: pieces else (c :: piece) :: pieces

/-- The ASCII capitals mapped to small letters, all other characters kept. -/
def lowerAscii (s : List Char) : List Char := s.map Char.toLower

theorem splitChars_ne_nil (sep : Char) (s : List Char) : splitChars sep s ≠ [] := by
  cases s with
  | nil => simp [splitChars]
  | cons c rest =>
    simp only [splitChars]
    split
    · simp
    · split <;> simp

end AspectAgent.Text
