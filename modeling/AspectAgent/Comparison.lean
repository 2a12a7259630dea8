import AspectAgent.Failure

/-!
# The order of values

Numbers are ordered by exact value, truth values counting as numbers, and a not-a-number comes
neither before nor after anything. Texts are ordered by code point. Of two lists the first elements
that differ decide, or else the lengths. Other values have no order.
-/

namespace AspectAgent

/-- Which of two orders a comparison asks for. -/
inductive Ordered where
  | less
  | greater
  deriving DecidableEq, Repr, Inhabited

namespace Ordered

def sign : Ordered → String
  | .less => "<"
  | .greater => ">"

/-- Do two things compare as asked, if the order is given by what comes before what? -/
def holds {α : Type} (before : α → α → Bool) : Ordered → α → α → Bool
  | .less, x, y => before x y
  | .greater, x, y => before y x

end Ordered

namespace Value

mutual

def isOrdered (o : Ordered) : Value → Value → Except Failure Bool
  | .list xs, .list ys => areOrdered o xs ys
  | .text s, .text t => .ok (o.holds (fun a b => decide (a < b)) s t)
  | v, w =>
    if v.isNumber && w.isNumber then
      match v.point?, w.point? with
      | some p, some q => .ok (o.holds LinePoint.lt p q)
      | _, _ => .ok false
    else .error (.incomparable o.sign v.typeName w.typeName)

private def areOrdered (o : Ordered) : List Value → List Value → Except Failure Bool
  | [], ys => .ok (o.holds (fun a b => decide (a < b)) 0 ys.length)
  | x :: xs, [] => .ok (o.holds (fun a b => decide (a < b)) (x :: xs).length 0)
  | x :: xs, y :: ys => if x.same y then areOrdered o xs ys else isOrdered o x y

end

end Value

end AspectAgent
