import AspectAgent.Act
import AspectAgent.Descriptor
import AspectAgent.Host.Binding

/-!
# What advice is called with

Advice around a method gets a view of the call. A guard that is asked directly passes nothing on but
the site.
-/

namespace AspectAgent

/-- The view of a call that advice gets. -/
structure AdviceCall where
  site : Site
  /-- The parameters without the receiver. -/
  parameters : List Parameter
  receiver : Option Value
  arguments : Arguments
  result : Value := .null
  failure : Option Failure := none

/-- What advice is called with: the view of a call, or, when a guard is asked directly, nothing but
the site. -/
inductive AdviceSubject where
  | call (c : AdviceCall)
  | bare (site : Option String)

namespace AdviceSubject

def site : AdviceSubject → Option String
  | .call c => some c.site.text
  | .bare site => site

/-- The view of the call; advice that asks for a part of it without a call fails. -/
def view {σ : Type} (part : String) : AdviceSubject → Act σ AdviceCall
  | .call c => .give c
  | .bare _ => .raise (.noCall part)

def withResult (v : Value) : AdviceSubject → AdviceSubject
  | .call c => .call { c with result := v }
  | .bare site => .bare site

end AdviceSubject

end AspectAgent
