import AspectAgent.Descriptor

/-!
# Naming spans after a lifecycle phase

When the phase of a request that restores its view has run, whether it returned or failed, the view
being served is known. The descriptor weaves advice into the method of the phase that takes the
request's context as its first argument; the advice hands that context to a span-naming policy.
-/

namespace AspectAgent.Lifecycle

def restoreViewPhase : String := "faces.lifecycle.RestoreViewPhase"

def facesContext : String := "faces.context.FacesContext"

def moduleName : String := "faces-lifecycle"

def phaseMethod : String := "execute"

def typeMatcher (typeName : String) : Matcher := .named typeName none

def methodMatcher (contextType methodName : String) : Matcher :=
  .and (.named methodName none) (.takesArgument 0 (.named contextType none))

/-- The descriptor of the phase method. The numbers identify its matchers and its advice. -/
def descriptor (typeNumber methodNumber adviceNumber : Nat) (policyFailure : Option Failure)
    (typeName contextType methodName : String) : Descriptor :=
  { typeMatcher := ⟨typeNumber, typeMatcher typeName⟩
    methodMatcher := ⟨methodNumber, methodMatcher contextType methodName⟩
    advice := .spanNaming adviceNumber policyFailure
    phase := .onExitIncludingFailure
    name := typeName ++ "." ++ methodName }

def module (typeNumber methodNumber adviceNumber : Nat) (policyFailure : Option Failure)
    (typeName contextType : String) : InstrumentationModule :=
  ⟨moduleName,
    [descriptor typeNumber methodNumber adviceNumber policyFailure typeName contextType
      phaseMethod]⟩

end AspectAgent.Lifecycle
