import AspectAgent.Matcher

/-!
# Descriptors

A descriptor says where and when a piece of advice runs: a matcher for the class, a matcher for its
methods, the advice and the phase. Two descriptors are the same when they use the very same matchers
and advice in the same phase under the same name; `DescriptorKey` is what is compared. Descriptors
that are enabled and disabled together form an instrumentation module.
-/

namespace AspectAgent

/-- The point of a call at which advice runs. -/
inductive Phase where
  | onEntry
  | onExit
  | onExitIncludingFailure
  deriving DecidableEq, Repr, Inhabited

namespace Phase

def name : Phase → String
  | .onEntry => "on_entry"
  | .onExit => "on_exit"
  | .onExitIncludingFailure => "on_exit_including_failure"

def shown : Phase → String
  | .onEntry => "<Phase.ON_ENTRY: 'on_entry'>"
  | .onExit => "<Phase.ON_EXIT: 'on_exit'>"
  | .onExitIncludingFailure => "<Phase.ON_EXIT_INCLUDING_FAILURE: 'on_exit_including_failure'>"

/-- The phase of a name; no other value is a phase. -/
def ofValue? : Value → Option Phase
  | .text s => [onEntry, onExit, onExitIncludingFailure].find? fun p => p.name == s
  | _ => none

end Phase

/-- One thing that advice does. -/
inductive AdviceAction where
  /-- Notes the phase, the site, the receiver, the arguments, the result and the failure. -/
  | record
  | arguments
  | argument (index : Int)
  | inside
  | faults
  | raise (f : Failure)
  | give (v : Value)
  /-- Calls a method on the receiver and notes what it returned. -/
  | call (method : String) (positional : List Value)
  /-- Writes a result into its own view of the call. -/
  | setResult (v : Value)
  | setKeyword (name : String) (v : Value)
  /-- Asks the guard to run other advice and notes the answer. -/
  | invoke (advice : String) (site : Option String)
  deriving Inhabited

/-- A piece of advice. -/
inductive Advice where
  | scripted (id : String) (actions : List AdviceAction)
  /-- Hands the first argument to a span-naming policy, which may fail. -/
  | spanNaming (number : Nat) (policyFailure : Option Failure)
  deriving Inhabited

/-- What makes two pieces of advice the same. -/
inductive AdviceKey where
  | scripted (id : String)
  | spanNaming (number : Nat)
  deriving DecidableEq, Repr, Inhabited

namespace Advice

def key : Advice → AdviceKey
  | .scripted id _ => .scripted id
  | .spanNaming n _ => .spanNaming n

def shown : Advice → String
  | .scripted id _ => "advice(" ++ Text.quoted id ++ ")"
  | .spanNaming .. => "UpdateSpanNameAdvice(naming)"

end Advice

/-- A matcher with the number under which it was made. -/
structure NumberedMatcher where
  number : Nat
  matcher : Matcher

/-- What makes two descriptors the same. -/
structure DescriptorKey where
  typeMatcher : Nat
  methodMatcher : Nat
  advice : AdviceKey
  phase : Phase
  name : String
  unhashed : Option String
  deriving DecidableEq, Repr, Inhabited

/-- Where and when a piece of advice runs. Advice is whatever can be called, and so is what a
matcher tests with. So one of these parts may be of a type that cannot be hashed; `unhashed` is the
name of this type. -/
structure Descriptor where
  typeMatcher : NumberedMatcher
  methodMatcher : NumberedMatcher
  advice : Advice
  phase : Phase := .onExit
  name : String := ""
  unhashed : Option String := none

namespace Descriptor

def key (d : Descriptor) : DescriptorKey :=
  ⟨d.typeMatcher.number, d.methodMatcher.number, d.advice.key, d.phase, d.name, d.unhashed⟩

def same (d e : Descriptor) : Bool := d.key = e.key

/-- The failure with which the descriptor is hashed, if it cannot be. -/
def unhashable? (d : Descriptor) : Option Failure := d.unhashed.map .unhashable

/-- A descriptor of given parts. The advice must be callable and the phase a phase; nothing asks
whether the parts can be hashed. -/
def make? (typeMatcher methodMatcher : NumberedMatcher) (advice : Option Advice) (phase : Value)
    (name : String) (unhashed : Option String) : Except Failure Descriptor :=
  match advice with
  | none => .error .adviceNotCallable
  | some a =>
    match Phase.ofValue? phase with
    | none => .error (.notAPhase phase)
    | some p => .ok ⟨typeMatcher, methodMatcher, a, p, name, unhashed⟩

/-- The short form: the name, or the labels of both matchers. -/
def text (d : Descriptor) : String :=
  if d.name.isEmpty then d.typeMatcher.matcher.label ++ "/" ++ d.methodMatcher.matcher.label
  else d.name

def shown (d : Descriptor) : String :=
  "ModuleDescriptor(type_matcher=" ++ d.typeMatcher.matcher.label ++ ", method_matcher=" ++
    d.methodMatcher.matcher.label ++ ", advice=" ++ d.advice.shown ++ ", phase=" ++
    d.phase.shown ++ ", name=" ++ Text.quoted d.name ++ ")"

end Descriptor

/-- A named group of descriptors. -/
structure InstrumentationModule where
  name : String
  descriptors : List Descriptor

/-- A method of a class into which advice has been woven. -/
structure Site where
  target : String
  method : String
  descriptor : Descriptor

namespace Site

def text (s : Site) : String := s.target ++ "." ++ s.method

end Site

/-- One layer of advice around a method, and the number of the guard that runs it. -/
structure Layer where
  site : Site
  guard : Nat

end AspectAgent
