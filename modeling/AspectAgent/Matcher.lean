import AspectAgent.Description
import AspectAgent.Failure

/-!
# Matchers

A matcher is a predicate over descriptions, built from comparisons of names, tests of parameters and
custom tests, with conjunction, disjunction and negation. Conjunction and disjunction stop at the
first operand that decides. A matcher has a label, and it may tell in which module a type it matches
must live.
-/

namespace AspectAgent

/-- A matcher over descriptions. -/
inductive Matcher where
  /-- The name is equal to `name`. The module is given when the name does not tell it. -/
  | named (name : String) (module : Option String)
  /-- The numbered parameter at `index` has a declared type name that `type` matches. -/
  | takesArgument (index : Nat) (type : Matcher)
  /-- There are exactly `count` numbered parameters. -/
  | takesArguments (count : Int)
  | and (left right : Matcher)
  | or (left right : Matcher)
  | not (operand : Matcher)
  /-- A custom test. It may return any value, which is judged by its truth value, or fail. -/
  | custom (label : String) (hint : Option String) (test : Subject → Except Failure Value)

/-- What an evaluation did: the labels of the custom tests it ran, in order, and how it ended. -/
structure Verdict where
  trace : List String
  outcome : Except Failure Bool

namespace Verdict

def of (b : Bool) : Verdict := ⟨[], .ok b⟩

/-- Goes on with another evaluation unless this one failed. -/
def andThen (v : Verdict) (next : Bool → Verdict) : Verdict :=
  match v.outcome with
  | .ok b => ⟨v.trace ++ (next b).trace, (next b).outcome⟩
  | .error f => ⟨v.trace, .error f⟩

end Verdict

namespace Matcher

/-- A matcher for the parameter at a position, which must not be negative. -/
def takesArgument? (index : Int) (type : Matcher) : Except Failure Matcher :=
  if index < 0 then .error .negativeArgumentIndex else .ok (.takesArgument index.toNat type)

/-- The disjunction of one or more matchers, from the left. -/
def anyOf? : List Matcher → Except Failure Matcher
  | [] => .error .noAlternatives
  | m :: rest => .ok (rest.foldl .or m)

def label : Matcher → String
  | .named name _ => "named(" ++ Text.quoted name ++ ")"
  | .takesArgument index type => "takes_argument(" ++ toString index ++ ", " ++ label type ++ ")"
  | .takesArguments count => "takes_arguments(" ++ toString count ++ ")"
  | .and left right => "(" ++ label left ++ " and " ++ label right ++ ")"
  | .or left right => "(" ++ label left ++ " or " ++ label right ++ ")"
  | .not operand => "not_(" ++ label operand ++ ")"
  | .custom text _ _ => text

/-- A hint that names something. -/
def isTelling (hint : Option String) : Bool := (hint.map fun h => !h.isEmpty).getD false

/-- The module in which a matched type must live, when the matcher can tell. A conjunction takes the
first telling hint, a disjunction a hint on which both sides agree. -/
def moduleHint : Matcher → Option String
  | .named _ (some module) => some module
  | .named name none =>
    let module := (TypeDescription.mk name).module
    if module.isEmpty then none else some module
  | .takesArgument .. | .takesArguments _ | .not _ => none
  | .and left right => if isTelling left.moduleHint then left.moduleHint else right.moduleHint
  | .or left right => if left.moduleHint = right.moduleHint then left.moduleHint else none
  | .custom _ hint _ => hint

def test : Matcher → Subject → Verdict
  | .named name _, s => .of (s.name? == some name)
  | .takesArgument index type, s =>
    match s.parameterTypes[index]? with
    | some (some typeName) => type.test (.type ⟨typeName⟩)
    | _ => .of false
  | .takesArguments count, s => .of ((s.parameterTypes.length : Int) == count)
  | .and left right, s => (left.test s).andThen fun b => if b then right.test s else .of false
  | .or left right, s => (left.test s).andThen fun b => if b then .of true else right.test s
  | .not operand, s => (operand.test s).andThen fun b => .of !b
  | .custom text _ run, s => ⟨[text], (run s).map Value.truthy⟩

end Matcher

end AspectAgent
