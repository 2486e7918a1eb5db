import SeriesRender.Evaluation.Trace
import SeriesRender.Duration

/-!
# The worker pool

A fixed number of evaluations may run at the same time; each of them holds a permit from its start
to its end, or to its deadline if that comes first. Permits go out in the order in which they are
asked for : `Pool.assign` gives an evaluation the permit that is free first, or none if that is
not before the deadline.

Evaluations that run side by side take turns. At one instant those that have waited for a fetch go
first, in the order in which their waits began, then those that start, in the order of their
requests (`Turns.before`).
-/

namespace SeriesRender

/-- The permits : how many there are, and the instants at which those in use come back. -/
structure Pool where
  size : Nat
  busy : List Duration

namespace Pool

/-- A pool with all its permits free; there is always one permit. -/
def ofSize (n : Nat) : Pool := ⟨max n 1, []⟩

/-- How many permits are free at an instant. -/
def available (p : Pool) (now : Duration) : Nat :=
  p.size - (p.busy.filter (now < ·)).length

/-- The first instant from `now` on at which a permit is free, and what the others that are then
in use come back at. -/
def acquire (p : Pool) (now : Duration) : Duration × List Duration :=
  let busy := p.busy.filter (now < ·)
  match busy.min? with
  | none => (now, [])
  | some first => if busy.length < p.size then (now, busy) else (first, busy.erase first)

/-- The instant at which an evaluation that is asked for at `now` starts, unless it would not
start before the deadline. -/
def assign (p : Pool) (now deadline duration : Duration) : Option Duration × Pool :=
  match p.acquire now with
  | (start, others) =>
    if start < deadline then
      (some start, { p with busy := min (start + duration) deadline :: others })
    else (none, p)

end Pool

/-! ## Taking turns -/

/-- The instants at which an evaluation has had its turns, the latest first. -/
abbrev Turns := List Duration

/-- Whether a turn comes before another, or with the same right : the earlier one does; at one
instant, the one whose evaluation had the earlier turn before, and one that had none comes
last. -/
def Turns.before : Turns → Turns → Bool
  | [], [] => true
  | [], _ :: _ => false
  | _ :: _, [] => true
  | a :: as, b :: bs => a < b || (a == b && before as bs)

/-- The fetches of an evaluation that are made from an instant on and before a deadline, after
earlier turns, each with the turns up to it. A fetch without a delay does not end the turn. -/
def timedFetches (deadline : Duration) (turns : Turns) (now : Duration) :
    List Fetch → List (Turns × Fetch)
  | [] => []
  | f :: fs =>
    if deadline ≤ now then []
    else
      (now :: turns, f) ::
        if f.delay = 0 then timedFetches deadline turns now fs
        else timedFetches deadline (now :: turns) (now + f.delay) fs

end SeriesRender
