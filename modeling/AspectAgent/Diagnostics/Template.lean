import AspectAgent.Diagnostics.Conversion
import AspectAgent.Number.DecimalText

/-!
# Message templates

A template is text with conversions in it, each of which starts with a percent sign; two of these
stand for one. A conversion uses up the next argument, or with a key in parentheses the entry of
that key, and may take its width and its precision from the arguments too. Arguments that are left
over are a failure, unless conversions may ask for entries by key. `pieces` splits a template, and
`fill` fills in the arguments from the left, so that the first failure counts.
-/

namespace AspectAgent.Template

/-- What the conversions draw from: the arguments in order, and the value that has entries. -/
structure Supply where
  pending : List Value
  named : Option Value := none
  deriving Inhabited

namespace Supply

/-- A single argument. Maps and lists have entries, though a list has none under a key. -/
def single (v : Value) : Supply :=
  match v with
  | .map _ | .list _ => ⟨[v], some v⟩
  | v => ⟨[v], none⟩

/-- The arguments of a logging call: a single map that is not empty stands for its entries. -/
def ofArguments : List Value → Supply
  | [.map (e :: es)] => single (.map (e :: es))
  | items => ⟨items, none⟩

def take (s : Supply) : Except Failure (Value × Supply) :=
  match s.pending with
  | [] => Conversion.fault .type
  | v :: rest => .ok (v, { s with pending := rest })

/-- Makes the entry of a key the only argument. -/
def select (s : Supply) (key : String) : Except Failure Supply :=
  match s.named with
  | some (.map entries) =>
    match Table.get? entries key with
    | some v => .ok { s with pending := [v] }
    | none => Conversion.fault .key
  | _ => Conversion.fault .type

end Supply

/-- The key of a conversion. -/
inductive Key where
  | none
  | closed (key : String)
  /-- The parenthesis is not closed. -/
  | unclosed
  deriving DecidableEq, Repr, Inhabited

/-- A width or a precision. -/
inductive Extent where
  | unset
  | given (n : Nat)
  | fromArgument
  deriving DecidableEq, Repr, Inhabited

/-- A conversion as it is written. There is no letter if the template ends before it. -/
structure Directive where
  key : Key := .none
  flags : ConversionFlags := {}
  width : Extent := .unset
  precision : Extent := .unset
  letter : Option Char := none
  deriving Inhabited

/-- A piece of a template. -/
inductive Piece where
  | literal (c : Char)
  | directive (d : Directive)
  deriving Inhabited

/-- Reads a key up to the parenthesis that closes it: the key and what follows. Parentheses nest. -/
def splitKey : Nat → List Char → Option (List Char × List Char)
  | _, [] => none
  | depth, c :: rest =>
    if c = ')' && depth = 0 then some ([], rest)
    else
      let depth := if c = '(' then depth + 1 else if c = ')' then depth - 1 else depth
      (splitKey depth rest).map fun r => (c :: r.1, r.2)

def flagsOf (s : List Char) : ConversionFlags :=
  ⟨s.contains '#', s.contains '-', s.contains '+', s.contains ' ', s.contains '0'⟩

def splitExtent : List Char → Extent × List Char
  | '*' :: rest => (.fromArgument, rest)
  | s =>
    let digits := s.takeWhile Char.isDigit
    (if digits.isEmpty then .unset else .given (DecimalText.natOf digits), s.dropWhile Char.isDigit)

/-- Reads what follows the key of a conversion. A letter for the size of the argument is passed
over. -/
def splitDirective (key : Key) (s : List Char) : Directive × List Char :=
  let isFlag := fun c => ['#', '-', '+', ' ', '0'].contains c
  let flags := flagsOf (s.takeWhile isFlag)
  let (width, s) := splitExtent (s.dropWhile isFlag)
  let (precision, s) := match s with
    | '.' :: rest =>
      match splitExtent rest with
      | (.unset, rest) => (.given 0, rest)
      | r => r
    | s => (.unset, s)
  let s := match s with
    | c :: rest => if c = 'h' || c = 'l' || c = 'L' then rest else s
    | [] => s
  (⟨key, flags, width, precision, s.head?⟩, s.drop 1)

/-- Splits a template. The first argument bounds the number of pieces. -/
def piecesWithin : Nat → List Char → List Piece
  | 0, _ | _, [] => []
  | n + 1, '%' :: '%' :: rest => .literal '%' :: piecesWithin n rest
  | n + 1, '%' :: '(' :: rest =>
    match splitKey 0 rest with
    | none => [.directive { key := .unclosed }]
    | some (key, rest) =>
      let (d, rest) := splitDirective (.closed (String.ofList key)) rest
      .directive d :: piecesWithin n rest
  | n + 1, '%' :: rest =>
    let (d, rest) := splitDirective .none rest
    .directive d :: piecesWithin n rest
  | n + 1, c :: rest => .literal c :: piecesWithin n rest

def pieces (s : List Char) : List Piece := piecesWithin s.length s

/-- The width and the supply that is left. A negative width means padding on the right. -/
def takeWidth (d : Directive) (s : Supply) : Except Failure (Nat × ConversionFlags × Supply) :=
  match d.width with
  | .unset => .ok (0, d.flags, s)
  | .given n => if Int.pow 2 63 ≤ n then Conversion.fault .value else .ok (n, d.flags, s)
  | .fromArgument => do
    let (v, s) ← s.take
    let n ← match v with
      | .int _ | .bool _ => Conversion.whole 10 v
      | _ => Conversion.fault .type
    if n < -(Int.pow 2 63) || Int.pow 2 63 ≤ n then Conversion.fault .overflow
    else return (n.natAbs, { d.flags with leftAligned := d.flags.leftAligned || n < 0 }, s)

/-- The precision, if there is one, and the supply that is left. A negative one counts as zero. -/
def takePrecision (d : Directive) (s : Supply) : Except Failure (Option Nat × Supply) :=
  match d.precision with
  | .unset => .ok (none, s)
  | .given n => if Int.pow 2 31 ≤ n then Conversion.fault .value else .ok (some n, s)
  | .fromArgument => do
    let (v, s) ← s.take
    let n ← match v with
      | .int _ | .bool _ => Conversion.whole 10 v
      | _ => Conversion.fault .type
    if n < -(Int.pow 2 31) || Int.pow 2 31 ≤ n then Conversion.fault .overflow
    else return (some n.toNat, s)

/-- Fills in one conversion: its text and the supply that is left. -/
def fillDirective (d : Directive) (s : Supply) : Except Failure (List Char × Supply) := do
  let s ← match d.key with
    | .none => .ok s
    | .closed key => s.select key
    | .unclosed => Conversion.fault (if s.named.isSome then .value else .type)
  let (width, flags, s) ← takeWidth d s
  let (precision, s) ← takePrecision d s
  match d.letter with
  | none => Conversion.fault .value
  | some letter =>
    let (v, s) ← s.take
    return (Conversion.padded flags width (← Conversion.convert flags precision letter v), s)

def fillPieces : List Piece → Supply → Except Failure (List Char)
  | [], s => if s.pending.isEmpty || s.named.isSome then .ok [] else Conversion.fault .type
  | .literal c :: rest, s => (fillPieces rest s).map (c :: ·)
  | .directive d :: rest, s => do
    let (text, s) ← fillDirective d s
    return text ++ (← fillPieces rest s)

def fill (template : String) (s : Supply) : Except Failure String :=
  (fillPieces (pieces template.toList) s).map String.ofList

end AspectAgent.Template
