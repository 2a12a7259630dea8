/-!
# Clipped text

Messages hold at most so many bytes of a long name. A character that does not fit as a whole becomes
the replacement character.
-/

namespace AspectAgent.Text

/-- What stands for a character that has been cut. -/
def replacement : Char := '\uFFFD'

/-- The characters that fit into some bytes. -/
def clip : Nat → List Char → List Char
  | _, [] => []
  | bytes, c :: rest =>
    if c.utf8Size ≤ bytes then c :: clip (bytes - c.utf8Size) rest
    else if bytes = 0 then []
    else [replacement]

/-- A name of which at most so many bytes are shown, in single quotes. -/
def clipped (bytes : Nat) (name : String) : String :=
  "'" ++ String.ofList (clip bytes name.toList) ++ "'"

end AspectAgent.Text
