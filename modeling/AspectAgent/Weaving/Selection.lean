import AspectAgent.Guard
import AspectAgent.Host.Program

/-!
# Selecting classes and methods

A descriptor is tried on the description of a class, and then on each method the class declares. A
matcher that fails in an ordinary way is reported; the descriptor, or the method, then counts as not
matching, and the rest is still tried. Any other failure of a matcher ends the selection.
-/

namespace AspectAgent

namespace Selection

def matchRecord (message : String) (d : Descriptor) (target : String) (fault : Failure) :
    LogRecord :=
  { logger := "agentweave.core.matching"
    level := warningLevel
    message := .text message
    extra := [("descriptor", .text d.text), ("target", .text target)]
    report := .of fault }

/-- Does the descriptor's type matcher match? An ordinary failure is raised as a matching failure.
-/
def matchesType (t : TypeDescription) (d : Descriptor) : Act Run Bool :=
  Act.orElse (Run.consult (d.typeMatcher.matcher.test (.type t))) fun cause =>
    Act.raise (.matcherFailed d.shown t.name cause)

/-- The descriptors that match a type, in order. A failed match is reported and left out. -/
def descriptorsFor (t : TypeDescription) : List Descriptor → Act Run (List Descriptor)
  | [] => .give []
  | d :: ds => do
    let matched ← Act.orElse (matchesType t d) fun fault => do
      report (matchRecord "Type matcher failed; skipping descriptor" d t.name fault)
      return false
    let rest ← descriptorsFor t ds
    return if matched then d :: rest else rest

/-- The methods of a type that match a descriptor, in order. A failed match is reported and left
out. -/
def methodsFor (t : TypeDescription) (d : Descriptor) :
    List MethodDescription → Act Run (List MethodDescription)
  | [] => .give []
  | m :: ms => do
    let verdict := d.methodMatcher.matcher.test (.method m)
    let matched ← Act.orElse (Run.consult verdict) fun cause => do
      let target := t.name ++ "." ++ m.name
      report (matchRecord "Method matcher failed; skipping method" d target
        (.matcherFailed d.shown target cause))
      return false
    let rest ← methodsFor t d ms
    return if matched then m :: rest else rest

end Selection

end AspectAgent
