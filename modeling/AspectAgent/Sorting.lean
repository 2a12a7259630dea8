import AspectAgent.Failure

/-!
# Sorting with a comparison that may fail

A list is sorted by taking the ordered run at its start and putting each further element into its
place by bisection, after all elements that it does not come before. Elements that come neither
before nor after each other keep their order. If the comparison fails for a pair that is looked at,
sorting fails with it.
-/

namespace AspectAgent.Sorting

variable {α : Type} (before : α → α → Except Failure Bool)

/-- Puts an element into a sorted list by bisection, after all elements that it does not come
before. -/
def insert (x : α) (xs : List α) : Except Failure (List α) :=
  match h : xs.drop (xs.length / 2) with
  | [] => .ok [x]
  | middle :: right => do
    have hl : right.length + 1 + xs.length / 2 = xs.length := by
      have := congrArg List.length h
      simp only [List.length_drop, List.length_cons] at this
      omega
    let left := xs.take (xs.length / 2)
    if ← before x middle then return (← insert x left) ++ middle :: right
    else return left ++ middle :: (← insert x right)
termination_by xs.length
decreasing_by
  · simp only [List.length_take]
    omega
  · omega

/-- Splits a list, which goes on after an element, at the first element that stands in the other
order to the one before it: descending strictly if `descends`, else ascending. -/
def splitRun (descends : Bool) (last : α) : List α → Except Failure (List α × List α)
  | [] => .ok ([], [])
  | x :: rest => do
    if (← before x last) = descends then
      let (run, left) ← splitRun descends x rest
      return (x :: run, left)
    else return ([], x :: rest)

/-- The ordered run at the start of a list, in ascending order, and what follows it. A run that
descends strictly is turned round. -/
def firstRun : List α → Except Failure (List α × List α)
  | x :: y :: rest => do
    let descends ← before y x
    let (run, left) ← splitRun before descends y rest
    let all := x :: y :: run
    return (if descends then all.reverse else all, left)
  | xs => .ok (xs, [])

def sort (xs : List α) : Except Failure (List α) := do
  let (run, left) ← firstRun before xs
  left.foldlM (fun sorted x => insert before x sorted) run

end AspectAgent.Sorting
