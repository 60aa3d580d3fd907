/-!
# Sorted tables of code points

A table of runs lists where each run starts and the value it carries up to the next one; a table of
ranges lists inclusive ranges. Both are sorted and searched by bisection.
-/
namespace TokenGrammar

/-- Number of leading entries between `lo` and `hi` that satisfy `p`, when those come first. -/
def bisect (p : Nat → Bool) (lo hi : Nat) : Nat :=
  if lo < hi then
    let mid := (lo + hi) / 2
    if p mid then bisect p (mid + 1) hi else bisect p lo mid
  else lo
termination_by hi - lo

/-- The value of the last run that starts at or before `n`. -/
def lastRun? {α : Type} (runs : Array (Nat × α)) (n : Nat) : Option α :=
  let after := bisect (fun i => match runs[i]? with
    | some (start, _) => start ≤ n
    | none => false) 0 runs.size
  if after = 0 then none else runs[after - 1]?.map (·.2)

def inRanges (ranges : Array (Nat × Nat)) (n : Nat) : Bool :=
  let after := bisect (fun i => match ranges[i]? with
    | some (first, _) => first ≤ n
    | none => false) 0 ranges.size
  if after = 0 then false
  else match ranges[after - 1]? with
    | some (_, last) => n ≤ last
    | none => false

end TokenGrammar
