import AspectAgent.Text.Variant

/-!
# One spelling for each name

Names that differ only by variants of characters are one name. The spelling of a name is found in
three steps: every character is taken apart into its plainest parts, the marks on a letter are put
into the order of their classes, and pairs for which there is a single character are put together
again.
-/

namespace AspectAgent.Text

/-- The characters from `first` to `last` are spelled by other characters: by `spelling`, or, where
that is a single one, by it and its successors in turn. -/
structure Respelling where
  first : Nat
  last : Nat
  spelling : List Nat

namespace Respelling

def number (s : String) : Nat :=
  s.toList.foldl
    (fun n c => 16 * n + (if c.isDigit then c.toNat - '0'.toNat else c.toNat - 'a'.toNat + 10)) 0

def ofEntry (s : String) : Respelling :=
  let sides := s.splitOn "="
  let ends := ((sides.headD "").splitOn "-").map number
  ⟨ends.headD 0, ends.getLastD 0, ((sides.getLastD "").splitOn "+").map number⟩

def ofLines (lines : List String) : List Respelling :=
  (lines.flatMap fun l => l.splitOn " ").map ofEntry

/-- The spelling of a character that the entry is about. -/
def spell? (r : Respelling) (c : Nat) : Option (List Nat) :=
  if r.first ≤ c ∧ c ≤ r.last then
    match r.spelling with
    | [target] => some [target + (c - r.first)]
    | spelling => some spelling
  else none

end Respelling

/-- The characters that are variants of others. -/
def variants : List Respelling :=
  Respelling.ofLines (latinVariants ++ lowerVariants ++ ideographVariants ++ formVariants ++
    upperVariants ++ supplementVariants)

def pairs : List Respelling :=
  Respelling.ofLines (latinPairs ++ lowerPairs ++ extendedPairs ++ upperPairs)

/-- The class of a mark; a character that is no mark is of class zero. -/
def markClass (c : Nat) : Nat :=
  (((lowerMarkClasses ++ upperMarkClasses).find? fun r => r.1 ≤ c && c ≤ r.2.1).map (·.2.2)).getD 0

namespace Hangul

/-! A Hangul syllable is a leading consonant, a vowel and perhaps a trailing consonant. The
syllables stand in the order of these three. -/

def leading : Nat := 0x1100

def vowel : Nat := 0x1161

/-- What a syllable without a trailing consonant has in the place of one. -/
def trailing : Nat := 0x11a7

def syllable : Nat := 0xac00

def leadingCount : Nat := 19

def vowelCount : Nat := 21

/-- The number of trailing consonants, the lack of one included. -/
def trailingCount : Nat := 28

def parts? (c : Nat) : Option (List Nat) :=
  let i := c - syllable
  if c < syllable || leadingCount * vowelCount * trailingCount ≤ i then none
  else
    let start := [leading + i / (vowelCount * trailingCount),
      vowel + i % (vowelCount * trailingCount) / trailingCount]
    some (if i % trailingCount = 0 then start else start ++ [trailing + i % trailingCount])

/-- The syllable that two parts make: two letters, or a syllable without a trailing consonant and
one. -/
def join? (a b : Nat) : Option Nat :=
  if leading ≤ a ∧ a < leading + leadingCount ∧ vowel ≤ b ∧ b < vowel + vowelCount then
    some (syllable + ((a - leading) * vowelCount + (b - vowel)) * trailingCount)
  else
    let i := a - syllable
    if syllable ≤ a ∧ i < leadingCount * vowelCount * trailingCount ∧ i % trailingCount = 0 ∧
        trailing < b ∧ b < trailing + trailingCount then
      some (a + (b - trailing))
    else none

end Hangul

/-- The plainer spelling of a character, if there is one. -/
def spelling? (c : Nat) : Option (List Nat) :=
  variants.findSome? (·.spell? c) <|> pairs.findSome? (·.spell? c) <|> Hangul.parts? c

/-- Respelling a character ends after at most so many rounds. -/
def spellingRounds : Nat := 8

/-- The plainest spelling of a character. -/
def plainest : Nat → Nat → List Nat
  | 0, c => [c]
  | rounds + 1, c =>
    match spelling? c with
    | none => [c]
    | some spelling => spelling.flatMap (plainest rounds)

/-- Puts a character after others, which are held last first; a mark goes before marks of a higher
class. -/
def placeMark (c : Nat) : List Nat → List Nat
  | [] => [c]
  | d :: before =>
    if 0 < markClass c && markClass c < markClass d then d :: placeMark c before
    else c :: d :: before

/-- The characters with the marks on each letter in the order of their classes. -/
def ordered (cs : List Nat) : List Nat := (cs.foldl (fun before c => placeMark c before) []).reverse

def join? (a b : Nat) : Option Nat :=
  ((pairs.find? fun r => r.spelling == [a, b]).map Respelling.first) <|> Hangul.join? a b

/-- Characters that have been put together: those that are done, last first, the letter that can
still take marks, and the marks after it that it could not take, last first. -/
structure Joined where
  done : List Nat := []
  letter : Option Nat := none
  marks : List Nat := []

namespace Joined

/-- All the characters, last first. -/
def all (j : Joined) : List Nat := j.marks ++ j.letter.toList ++ j.done

/-- Puts the next character. A letter cannot take it if a mark of no lower class lies between. -/
def put (j : Joined) (c : Nat) : Joined :=
  let isFree := match j.marks with
    | [] => true
    | m :: _ => markClass m < markClass c
  match if isFree then j.letter.bind (join? · c) else none with
  | some joined => { j with letter := some joined }
  | none =>
    if markClass c = 0 then { done := j.all, letter := some c }
    else { j with marks := c :: j.marks }

end Joined

/-- The one spelling of a name. ASCII characters are no variants. -/
def normal (s : String) : String :=
  if s.toList.all fun c => c.toNat < 0x80 then s
  else
    let parts := ordered (s.toList.flatMap fun c => plainest spellingRounds c.toNat)
    String.ofList (((parts.foldl Joined.put {}).all.reverse).map Char.ofNat)

end AspectAgent.Text
