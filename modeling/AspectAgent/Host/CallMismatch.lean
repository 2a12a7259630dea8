import AspectAgent.Text.Quoted

/-!
# Calls that do not fit

A call does not fit a function if a keyword cannot be taken, if there are too many positional
arguments, or if a parameter without a default is left without an argument. `CallMismatch` tells
which of these it is; its text names the function.
-/

namespace AspectAgent

/-- Why the arguments of a call do not fit a function. -/
inductive CallMismatch where
  | repeated (parameter : String)
  | unexpected (keyword : String)
  /-- Keywords name parameters that are positional-only. -/
  | positionalOnly (parameters : List String)
  /-- There are more positional arguments than parameters for them. Besides the number given, the
  text tells how many are needed at least and at most, and how many keyword-only ones are given. -/
  | surplus (least most given keywordOnly : Nat)
  | missing (parameters : List String)
  | missingKeyword (parameters : List String)
  deriving DecidableEq, Repr, Inhabited

namespace CallMismatch

def ending (n : Nat) : String := if n = 1 then "" else "s"

/-- Names in a row, in quotes: the last one after an "and", and from three on with commas. -/
def listed (names : List String) : String :=
  match names.map Text.quoted with
  | [] => ""
  | [a] => a
  | [a, b] => a ++ " and " ++ b
  | quoted => ", ".intercalate quoted.dropLast ++ ", and " ++ quoted.getLastD ""

/-- The text about parameters of a kind that lack an argument. -/
def lacking (kind : String) (names : List String) : String :=
  "missing " ++ toString names.length ++ " required " ++ kind ++ " argument" ++
    ending names.length ++ ": " ++ listed names

def text : CallMismatch → String
  | .repeated p => "got multiple values for argument '" ++ p ++ "'"
  | .unexpected k => "got an unexpected keyword argument '" ++ k ++ "'"
  | .positionalOnly ps =>
    "got some positional-only arguments passed as keyword arguments: '" ++
      ", ".intercalate ps ++ "'"
  | .surplus least most given keywordOnly =>
    let range := if least < most then "from " ++ toString least ++ " to " ++ toString most
      else toString most
    let wanted := if least < most then 2 else most
    let besides := if keywordOnly = 0 then ""
      else " positional argument" ++ ending given ++ " (and " ++ toString keywordOnly ++
        " keyword-only argument" ++ ending keywordOnly ++ ")"
    "takes " ++ range ++ " positional argument" ++ ending wanted ++ " but " ++ toString given ++
      besides ++ (if given = 1 && keywordOnly = 0 then " was" else " were") ++ " given"
  | .missing ps => lacking "positional" ps
  | .missingKeyword ps => lacking "keyword-only" ps

end CallMismatch

end AspectAgent
