import AspectAgent.Failure
import AspectAgent.Host.Signature

/-!
# Binding arguments to parameters

There are two ways to bind the arguments of a call. `bindCall` is the host's own: it decides whether
a function's body runs and with which values. `bindSeen` is the one through which advice looks at a
call: it works on the parameters without the receiver, fails with a text that tells why, and fills
in defaults. They differ in a few cases, such as a keyword that has the name of a positional-only
parameter.
-/

namespace AspectAgent

/-- The arguments of a call. -/
structure Arguments where
  positional : List Value := []
  keywords : Table Value := []
  deriving Inhabited

namespace Arguments

def isEmpty (a : Arguments) : Bool := a.positional.isEmpty && a.keywords.isEmpty

end Arguments

namespace Binding

/-- Gives positional arguments to the parameters that take them, from the left. The result is the
bound part, the surplus and the parameters left over. -/
def takePositional : List Parameter → List Value →
    Table Value × List Value × List Parameter
  | p :: ps, v :: vs =>
    if p.kind = .positionalOnly ∨ p.kind = .positional then
      let (bound, surplus, left) := takePositional ps vs
      ((p.name, v) :: bound, surplus, left)
    else ([], v :: vs, p :: ps)
  | ps, vs => ([], vs, ps)

def acceptsKeyword (p : Parameter) : Bool := p.kind == .positional || p.kind == .keywordOnly

/-- The value a parameter without positional argument gets: the surplus, its keyword, or its
default.
-/
def fillOne (surplus : List Value) (keywords unused : Table Value) (p : Parameter) :
    Option Value :=
  match p.kind with
  | .surplus => some (.tuple surplus)
  | .surplusKeywords => some (.map unused)
  | .positionalOnly => p.default
  | _ => keywords.get? p.name <|> p.default

/-- The host's own binding. Positional arguments go to parameters from the left and the rest to the
surplus parameter. A keyword goes to the parameter of its name unless that one is positional-only,
else to the surplus keywords. Every other parameter needs its default. No parameter may be given
twice, and nothing may be left over. -/
def bindCall (parameters : List Parameter) (a : Arguments) : Option (Table Value) := do
  let (bound, surplus, left) := takePositional parameters a.positional
  let named := fun k => parameters.any fun p => acceptsKeyword p && p.name == k
  let unused := a.keywords.filter fun e => !named e.1
  if !surplus.isEmpty && !parameters.any (·.kind == .surplus) then none
  if !unused.isEmpty && !parameters.any (·.kind == .surplusKeywords) then none
  let given := parameters.take (parameters.length - left.length)
  if given.any fun p => p.kind == .positional && a.keywords.has p.name then none
  let rest ← left.mapM fun p => (fillOne surplus a.keywords unused p).map (p.name, ·)
  return bound ++ rest

/-- Why the arguments of a call do not fit the parameters, if they do not. The keywords are looked
at first, in their order; then the number of positional arguments; then the positional and at last
the keyword-only parameters that lack an argument. -/
def mismatch (parameters : List Parameter) (a : Arguments) : CallMismatch :=
  let positional := parameters.filter fun p => p.kind == .positionalOnly || p.kind == .positional
  let keywordOnly := parameters.filter (·.kind == .keywordOnly)
  let given := positional.take a.positional.length
  let hidden := positional.filter fun p => p.kind == .positionalOnly && a.keywords.has p.name
  let stray := a.keywords.findSome? fun e =>
    match parameters.find? fun p => acceptsKeyword p && p.name == e.1 with
    | some p => if given.any (·.name == p.name) then some (.repeated p.name) else none
    | none =>
      if parameters.any (·.kind == .surplusKeywords) then none
      else if hidden.isEmpty then some (.unexpected e.1)
      else some (.positionalOnly (hidden.map Parameter.name))
  let lacking := fun p : Parameter =>
    p.default.isNone && !(acceptsKeyword p && a.keywords.has p.name)
  let missing := ((positional.drop a.positional.length).filter lacking).map Parameter.name
  match stray with
  | some m => m
  | none =>
    if positional.length < a.positional.length && !parameters.any (·.kind == .surplus) then
      .surplus (positional.filter (·.default.isNone)).length positional.length a.positional.length
        (keywordOnly.filter fun p => a.keywords.has p.name).length
    else if !missing.isEmpty then .missing missing
    else .missingKeyword ((keywordOnly.filter lacking).map Parameter.name)

/-- What the first phase of the other binding leaves: the arguments bound, and the parameters that
are bound by keyword. -/
structure PositionalPhase where
  bound : Table Value
  left : List Parameter

/-- When the positional arguments have run out, the next parameter decides: a surplus parameter is
empty; one that is named by a keyword, has a default or takes surplus keywords goes to the second
phase; any other is missing. -/
def atEnd (keywords : Table Value) : List Parameter → Except Failure (List Parameter)
  | [] => .ok []
  | p :: ps =>
    if p.kind = .surplus then .ok ps
    else if keywords.has p.name then
      if p.kind = .positionalOnly then .error (.positionalOnlyKeyword p.name) else .ok (p :: ps)
    else if p.kind = .surplusKeywords ∨ p.default.isSome then .ok (p :: ps)
    else .error (.missingArgument p.name)

/-- The first phase: positional arguments are used up from the left. -/
def positionalPhase (keywords : Table Value) :
    List Parameter → List Value → Except Failure PositionalPhase
  | ps, [] => (atEnd keywords ps).map fun left => ⟨[], left⟩
  | [], _ :: _ => .error .surplusArguments
  | p :: ps, v :: vs =>
    match p.kind with
    | .surplusKeywords | .keywordOnly => .error .surplusArguments
    | .surplus => .ok ⟨[(p.name, .tuple (v :: vs))], ps⟩
    | kind =>
      if keywords.has p.name ∧ kind ≠ .positionalOnly then .error (.repeatedArgument p.name)
      else
        (positionalPhase keywords ps vs).map fun r => { r with bound := (p.name, v) :: r.bound }

/-- The second phase: each parameter left takes its keyword or is left to its default. The result is
the arguments bound and the keywords not used. -/
def keywordPhase : List Parameter → Table Value → Except Failure (Table Value × Table Value)
  | [], keywords => .ok ([], keywords)
  | p :: ps, keywords =>
    if p.isVariadic then keywordPhase ps keywords
    else
      match keywords.get? p.name with
      | some v =>
        if p.kind = .positionalOnly then .error (.positionalOnlyKeyword p.name)
        else
          (keywordPhase ps (keywords.remove p.name)).map fun r => ((p.name, v) :: r.1, r.2)
      | none =>
        if p.default.isSome then keywordPhase ps keywords else .error (.missingArgument p.name)

def completed (bound : Table Value) (p : Parameter) : Option (String × Value) :=
  match bound.get? p.name with
  | some v => some (p.name, v)
  | none =>
    match p.default with
    | some v => some (p.name, v)
    | none =>
      match p.kind with
      | .surplus => some (p.name, .tuple [])
      | .surplusKeywords => some (p.name, .map [])
      | _ => none

/-- The binding through which advice looks at a call, in the order of the parameters. -/
def bindSeen (parameters : List Parameter) (a : Arguments) : Except Failure (Table Value) := do
  let first ← positionalPhase a.keywords parameters a.positional
  let (byKeyword, unused) ← keywordPhase first.left a.keywords
  let bound := first.bound ++ byKeyword
  let takesSurplus := first.left.find? fun p => p.kind == .surplusKeywords
  let bound ← match unused, takesSurplus with
    | [], _ => .ok bound
    | _ :: _, some p => .ok (bound ++ [(p.name, .map unused)])
    | e :: _, none => .error (.unknownKeyword e.1)
  return parameters.filterMap (completed bound)

/-- The name of the numbered parameter at an index; a negative index counts from the end. -/
def numberedName (parameters : List Parameter) (index : Int) : Except Failure String :=
  if index < -(Int.pow 2 63) || Int.pow 2 63 ≤ index then .error .positionTooWide
  else
    let names := Signature.numbered parameters
    let i := if index < 0 then index + names.length else index
    if i < 0 then .error .argumentOutOfRange
    else
      match names[i.toNat]? with
      | some p => .ok p.name
      | none => .error .argumentOutOfRange

def seenArgument (parameters : List Parameter) (a : Arguments) (index : Int) :
    Except Failure Value := do
  let name ← numberedName parameters index
  let bound ← bindSeen parameters a
  match bound.get? name with
  | some v => .ok v
  | none => .error (.missingKey name)

end Binding

end AspectAgent
