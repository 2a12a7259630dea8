import AspectAgent.Number.ShortestDecimal
import AspectAgent.Table
import AspectAgent.Text.Clipped
import AspectAgent.Text.Quoted

/-!
# Values

The values that a host program passes around and that readings, labels and diagnostics entries hold:
numbers, text, sequences, maps, memory readings and references to the host's classes and instances.
The module gives their truth value, the name of their type, equality by content (numbers by exact
value) and their printed form.
-/

namespace AspectAgent

/-- A class of the host: its number in the order of declaration, and its full name. -/
structure ClassRef where
  index : Nat
  name : String
  deriving DecidableEq, Repr, Inhabited

/-- A value of the host. -/
inductive Value where
  | null
  | bool (b : Bool)
  | int (n : Int)
  | float (x : Binary64)
  | text (s : String)
  | list (items : List Value)
  /-- A sequence that cannot be changed, such as the surplus arguments of a call. -/
  | tuple (items : List Value)
  | map (entries : List (String × Value))
  /-- A memory reading of four fields. -/
  | usage (init used committed max : Value)
  /-- A thing of which only the type's name is known. -/
  | object (typeName : String)
  | instanceOf (c : ClassRef)
  | classOf (c : ClassRef)
  deriving Inhabited

namespace Value

/-- The truth value: zeros, empty text, empty collections and null are false. -/
def truthy : Value → Bool
  | .null => false
  | .bool b => b
  | .int n => n != 0
  | .float x => !x.isZero
  | .text s => !s.isEmpty
  | .list items | .tuple items => !items.isEmpty
  | .map entries => !entries.isEmpty
  | _ => true

/-- The part of a name after the last dot. -/
def lastComponent (name : String) : String :=
  String.ofList (name.toList.reverse.takeWhile (· ≠ '.')).reverse

def typeName : Value → String
  | .null => "NoneType"
  | .bool _ => "bool"
  | .int _ => "int"
  | .float _ => "float"
  | .text _ => "str"
  | .list _ => "list"
  | .tuple _ => "tuple"
  | .map _ => "dict"
  | .usage .. => "MemoryUsage"
  | .object name => name
  | .instanceOf c => lastComponent c.name
  | .classOf _ => "type"

/-- How many bytes of a name a message shows if the name is that of the type of a thing that lacks
something. -/
def lackingBytes : Nat := 50

/-- How a message calls a thing of a type that lacks something. -/
def objectShown (typeName : String) : String := Text.clipped lackingBytes typeName ++ " object"

/-- How a message calls a value that lacks something: a class by its own name, other values by the
name of their type. -/
def kindShown : Value → String
  | .classOf c => "type object " ++ Text.clipped lackingBytes (lastComponent c.name)
  | v => objectShown v.typeName

/-- The point of the number line of a value that counts as a number, truth values included. -/
def point? : Value → Option LinePoint
  | .bool b => some (.ofInt (if b then 1 else 0))
  | .int n => some (.ofInt n)
  | .float x => LinePoint.ofBinary64? x
  | _ => none

/-- Text, numbers and truth values. -/
def isScalar : Value → Bool
  | .text _ | .int _ | .float _ | .bool _ => true
  | _ => false

def isText : Value → Bool
  | .text _ => true
  | _ => false

/-- Is the value a number or a truth value, which counts as one? -/
def isNumber (v : Value) : Bool := v.isScalar && !v.isText

mutual

/-- Equality by content. Numbers are equal by exact value whatever their type, a not-a-number equals
nothing, and the order of a map's entries does not count. -/
def same : Value → Value → Bool
  | .null, .null => true
  | .text s, .text t => s == t
  | .list xs, .list ys | .tuple xs, .tuple ys => sameItems xs ys
  | .map xs, .map ys => xs.length == ys.length && sameEntries xs ys
  | .usage a b c d, .usage a' b' c' d' => same a a' && same b b' && same c c' && same d d'
  | .instanceOf c, .instanceOf d => c == d
  | .classOf c, .classOf d => c == d
  | v, w =>
    match v.point?, w.point? with
    | some p, some q => p == q
    | _, _ => false

private def sameItems : List Value → List Value → Bool
  | [], [] => true
  | x :: xs, y :: ys => same x y && sameItems xs ys
  | _, _ => false

private def sameEntries : List (String × Value) → List (String × Value) → Bool
  | [], _ => true
  | (k, x) :: rest, ys =>
    (match Table.get? ys k with
      | some y => same x y
      | none => false) && sameEntries rest ys

end

mutual

def shown : Value → String
  | .null => "None"
  | .bool b => if b then "True" else "False"
  | .int n => toString n
  | .float x => x.text
  | .text s => Text.quoted s
  | .list items => "[" ++ String.intercalate ", " (shownItems items) ++ "]"
  | .tuple [x] => "(" ++ shown x ++ ",)"
  | .tuple items => "(" ++ String.intercalate ", " (shownItems items) ++ ")"
  | .map entries => "\x7b" ++ String.intercalate ", " (shownEntries entries) ++ "\x7d"
  | .usage a b c d =>
    "MemoryUsage(init=" ++ shown a ++ ", used=" ++ shown b ++ ", committed=" ++ shown c ++
      ", max=" ++ shown d ++ ")"
  | .object name => "<" ++ name ++ ">"
  | .instanceOf c => "<" ++ c.name ++ " object>"
  | .classOf c => "<class " ++ Text.quoted c.name ++ ">"

private def shownItems : List Value → List String
  | [] => []
  | x :: xs => shown x :: shownItems xs

private def shownEntries : List (String × Value) → List String
  | [] => []
  | (k, x) :: rest => (Text.quoted k ++ ": " ++ shown x) :: shownEntries rest

end

/-- The plain form: text as it is, anything else as printed. -/
def plain : Value → String
  | .text s => s
  | v => v.shown

def texts (xs : List String) : Value := .list (xs.map .text)

def ofText? : Option String → Value
  | none => .null
  | some s => .text s

/-- Entries as a list of pairs. -/
def pairs (entries : Table Value) : Value :=
  .list (entries.map fun e => .list [.text e.1, e.2])

end Value

end AspectAgent
