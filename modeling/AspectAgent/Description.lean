import AspectAgent.Text.Quoted

/-!
# Descriptions of types and methods

Matchers never see a class or a method, only its description: a type by its full name, a method by
its name, its kind and the declared type names of its parameters.
-/

namespace AspectAgent

/-- How a method takes its receiver. -/
inductive MethodKind where
  | onInstance
  | onClass
  | receiverless
  deriving DecidableEq, Repr, Inhabited

namespace MethodKind

def name : MethodKind → String
  | .onInstance => "instance"
  | .onClass => "class"
  | .receiverless => "static"

end MethodKind

/-- A type by its full name. -/
structure TypeDescription where
  name : String
  deriving DecidableEq, Repr, Inhabited

namespace TypeDescription

def module (d : TypeDescription) : String :=
  String.ofList (Text.beforeLastDot d.name.toList)

end TypeDescription

/-- A method: its name, the type name of each numbered parameter (none where there is no
annotation), and its kind. -/
structure MethodDescription where
  name : String
  parameterTypes : List (Option String)
  kind : MethodKind
  deriving DecidableEq, Repr, Inhabited

/-- What a matcher is applied to. -/
inductive Subject where
  | type (d : TypeDescription)
  | method (d : MethodDescription)
  /-- A thing with neither a name nor parameters. -/
  | blank
  deriving DecidableEq, Repr, Inhabited

namespace Subject

def name? : Subject → Option String
  | .type d => some d.name
  | .method d => some d.name
  | .blank => none

/-- The type names of the numbered parameters; only methods have any. -/
def parameterTypes : Subject → List (Option String)
  | .method d => d.parameterTypes
  | _ => []

end Subject

end AspectAgent
