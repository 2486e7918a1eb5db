import SeriesRender.Regex.Pattern

/-!
# Matching

The matcher reads a text once, with a list of threads in order of preference. A thread is what
is left to match (`List Todo`) and the group boundaries met so far. At each place `follow` turns
what a thread has left into the ordered list of its next steps : ending here, or taking a
character of some class. The first end in the list is the preferred match so far, and all that
stand behind it are dropped; of two threads with the same left to do the first is kept, so their
number is bounded by the pattern.

A loop goes round again only after taking a character : an empty round ends it (`stepsStar`,
`stepsAgain`).
-/

namespace SeriesRender.Regex

/-- The places where groups start (mark `2i`) and end (mark `2i + 1`). -/
abbrev Marks := List (Nat × Nat)

/-- The place that was last kept under a mark. -/
def Marks.get? (marks : Marks) (mark : Nat) : Option Nat :=
  marks.lookup mark

/-- Keep a place under a mark. -/
def Marks.put (marks : Marks) (mark place : Nat) : Marks :=
  (mark, place) :: marks.filter (·.1 ≠ mark)

/-- What a thread still has to do. -/
inductive Todo
  | pattern (p : Pattern)
  /-- Note the end of a group. -/
  | close (index : Nat)
  /-- A round of a loop is over. -/
  | again (greedy : Bool) (p : Pattern)
  deriving DecidableEq, Repr

/-- A next step of a thread. -/
inductive Step
  | done (marks : Marks)
  | take (s : CharClass) (todo : List Todo) (marks : Marks)

/-- Only the first end counts. -/
def firstDone : List Step → List Step
  | [] => []
  | .take s todo marks :: rest => .take s todo marks :: firstDone rest
  | .done marks :: rest =>
    .done marks :: rest.filter fun | .done _ => false | .take .. => true

/-- Where a step ends, go on with `next`; where it takes a character, leave `rest` for later. -/
def andThen (steps : List Step) (rest : List Todo) (next : Marks → List Step) : List Step :=
  firstDone <| steps.flatMap fun
    | .done marks => next marks
    | .take s todo marks => [.take s (todo ++ rest) marks]

/-- The steps that take a character. -/
def takes (steps : List Step) : List Step :=
  steps.filter fun | .done _ => false | .take .. => true

/-- Two ways to go on, the first preferred if `greedy`. -/
def either (greedy : Bool) (a b : List Step) : List Step :=
  firstDone (if greedy then a ++ b else b ++ a)

section Repetition

variable (greedy : Bool) (p : Pattern) (steps : Marks → List Step)

/-- After a round of a loop over `p` : another round that takes a character, or the end. -/
def stepsAgain (marks : Marks) : List Step :=
  either greedy (andThen (takes (steps marks)) [.again greedy p] fun _ => []) [.done marks]

/-- One round or more. An empty first round ends the loop where it stands. -/
def stepsPlus (marks : Marks) : List Step :=
  andThen (steps marks) [.again greedy p] fun marks => [.done marks]

/-- No round or more. -/
def stepsStar (marks : Marks) : List Step :=
  either greedy (stepsPlus greedy p steps marks) [.done marks]

/-- At most `n` copies. -/
def stepsUpTo : Nat → Marks → List Step
  | 0, marks => [.done marks]
  | n + 1, marks =>
    either greedy
      (andThen (steps marks) [.pattern (.rep greedy 0 (some n) p)] (stepsUpTo n))
      [.done marks]

/-- `n` copies, then what `last` says; `rest` is the pattern for what follows the first of
them. -/
def stepsExactly (rest : Nat → Pattern) (last : Marks → List Step) : Nat → Marks → List Step
  | 0, marks => last marks
  | n + 1, marks => andThen (steps marks) [.pattern (rest n)] (stepsExactly rest last n)

/-- The steps into a repetition : as often as it has to be, then as often as it may be. -/
def stepsRep (least : Nat) (most : Option Nat) : Marks → List Step :=
  match most, least with
  | none, 0 => stepsStar greedy p steps
  | none, n + 1 =>
    stepsExactly steps (fun k => .rep greedy (k + 1) none p) (stepsPlus greedy p steps) n
  | some most, least =>
    stepsExactly steps (fun k => .rep greedy k (some (k + (most - least))) p)
      (stepsUpTo greedy p steps (most - least)) least

end Repetition

/-- The steps of a pattern at a place. -/
def Pattern.steps (around : Around) (place : Nat) : Pattern → Marks → List Step
  | .empty, marks => [.done marks]
  | .set s, marks => [.take s [] marks]
  | .look l, marks => if l.holds around then [.done marks] else []
  | .cat a b, marks => andThen (a.steps around place marks) [.pattern b] (b.steps around place)
  | .alt a b, marks => firstDone (a.steps around place marks ++ b.steps around place marks)
  | .group i a, marks =>
    andThen (a.steps around place (marks.put (2 * i) place)) [.close i]
      fun marks => [.done (marks.put (2 * i + 1) place)]
  | .rep greedy least most a, marks =>
    stepsRep greedy a (fun marks => a.steps around place marks) least most marks

/-- The steps that what is left to do can take at a place. -/
def Todo.steps (around : Around) (place : Nat) : Todo → Marks → List Step
  | .pattern p, marks => p.steps around place marks
  | .close i, marks => [.done (marks.put (2 * i + 1) place)]
  | .again greedy p, marks => stepsAgain greedy p (p.steps around place) marks

/-- The steps of a whole list of things to do. -/
def follow (around : Around) (place : Nat) : List Todo → Marks → List Step
  | [], marks => [.done marks]
  | t :: ts, marks => andThen (t.steps around place marks) ts (follow around place ts)

/-- A thread : what is left to do, and the group boundaries met so far. -/
structure Thread where
  todo : List Todo
  marks : Marks

/-- Of threads with the same left to do, the first. -/
def distinct : List Thread → List Thread
  | [] => []
  | t :: ts => t :: (distinct ts).filter (·.todo ≠ t.todo)

/-- The steps before the first end, and that end. -/
def untilDone : List Step → List Step × Option Marks
  | [] => ([], none)
  | .done marks :: _ => ([], some marks)
  | s :: rest => ((s :: (untilDone rest).1), (untilDone rest).2)

/-- The threads after taking `c`. -/
def advance (c : Char) (steps : List Step) : List Thread :=
  distinct <| steps.filterMap fun
    | .done _ => none
    | .take s todo marks => if s.contains c then some ⟨todo, marks⟩ else none

/-- A match : the place where it ends, and its group boundaries. -/
structure Found where
  stop : Nat
  marks : Marks

/-- Run the threads over a text. `best` is the preferred match so far. -/
def runThreads (threads : List Thread) (before : Option Char) (place : Nat) (best : Option Found) :
    List Char → Option Found
  | [] =>
    let steps := threads.flatMap fun t => follow ⟨before, none⟩ place t.todo t.marks
    match (untilDone steps).2 with
    | some marks => some ⟨place, marks⟩
    | none => best
  | c :: cs =>
    let steps := threads.flatMap fun t => follow ⟨before, some c⟩ place t.todo t.marks
    let (steps, ended) := untilDone steps
    let best := match ended with
      | some marks => some ⟨place, marks⟩
      | none => best
    let threads := advance c steps
    if threads.isEmpty then best else runThreads threads (some c) (place + 1) best cs

/-- The preferred match that starts right here. -/
def Pattern.matchHere (p : Pattern) (before : Option Char) (place : Nat) (cs : List Char) :
    Option Found :=
  runThreads [⟨[.pattern p], []⟩] before place none cs

/-- The preferred match with the leftmost start, and that start. -/
def Pattern.search (p : Pattern) (before : Option Char) (place : Nat) :
    List Char → Option (Nat × Found)
  | [] => (p.matchHere before place []).map (place, ·)
  | c :: cs =>
    match p.matchHere before place (c :: cs) with
    | some found => some (place, found)
    | none => p.search (some c) (place + 1) cs

/-- A match that is found lies within the text, as the best one so far does. -/
theorem runThreads_bounds (low : Nat) {threads : List Thread} {before : Option Char} {place : Nat}
    {best : Option Found} {cs : List Char} {found : Found}
    (hbest : ∀ f, best = some f → low ≤ f.stop ∧ f.stop ≤ place + cs.length) (hlow : low ≤ place)
    (h : runThreads threads before place best cs = some found) :
    low ≤ found.stop ∧ found.stop ≤ place + cs.length := by
  induction cs generalizing threads before place best with
  | nil =>
    simp only [runThreads] at h
    split at h
    · cases h
      exact ⟨hlow, by simp⟩
    · exact hbest found h
  | cons c cs ih =>
    have hnext : ∀ (steps : List Step) f,
        (match (untilDone steps).2 with
          | some marks => some ⟨place, marks⟩
          | none => best) = some f → low ≤ f.stop ∧ f.stop ≤ place + (cs.length + 1) := by
      intro steps f hf
      split at hf
      · cases hf
        exact ⟨hlow, by simp⟩
      · exact hbest f hf
    simp only [runThreads] at h
    split at h
    · exact hnext _ found h
    · have := ih (fun f hf => by have := hnext _ f hf; omega) (by omega) h
      simp only [List.length_cons]
      omega

/-- A match starts and ends within the text that was searched. -/
theorem Pattern.search_bounds (p : Pattern) {before : Option Char} {place start : Nat}
    {cs : List Char} {found : Found} (h : p.search before place cs = some (start, found)) :
    place ≤ start ∧ start ≤ found.stop ∧ found.stop ≤ place + cs.length := by
  induction cs generalizing before place with
  | nil =>
    simp only [Pattern.search, Option.map_eq_some_iff, Prod.mk.injEq] at h
    obtain ⟨f, hf, rfl, rfl⟩ := h
    have := runThreads_bounds place (by simp) (Nat.le_refl _) hf
    omega
  | cons c cs ih =>
    rw [Pattern.search] at h
    split at h
    · rename_i f hf
      cases h
      have := runThreads_bounds start (by simp) (Nat.le_refl _) hf
      omega
    · have := ih h
      simp only [List.length_cons]
      omega

/-- Whether the pattern matches somewhere in the text. -/
def Pattern.isMatch (p : Pattern) (text : List Char) : Bool :=
  (p.search none 0 text).isSome

end SeriesRender.Regex
