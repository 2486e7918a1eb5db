import SeriesRender.Regex.Matcher
import SeriesRender.Regex.Scan

/-!
# From text to patterns

The text of a pattern is read once, from left to right, with a stack of the groups that are
open. `Machine` holds what has been read of the innermost one : the alternatives that are
finished and the items of the current one. `Regex.ofText` adds the two bounds on what it
accepts : the nesting of the text, and the size of the automaton it stands for.
-/

namespace SeriesRender.Regex

/-- Part of an alternative, with the nesting of its text. A change of flags is an item too,
though nothing can be repeated there. -/
structure Item where
  pattern : Option Pattern
  depth : Nat

/-- What has been read of one group, last first. -/
structure Body where
  branches : List Item
  items : List Item

/-- A group that is open : its number if it captures, the flags to restore at its end, and the
body around it. -/
structure Level where
  index : Option Nat
  flags : Flags
  outer : Body

/-- What the parser has read so far. -/
structure Machine where
  flags : Flags
  body : Body
  levels : List Level
  /-- How many groups have been numbered, the whole match being group 0. -/
  groups : Nat
  /-- The numbers of the named groups. -/
  names : List (String × Nat)

/-- Nothing has been read. -/
def Machine.start : Machine :=
  ⟨{}, ⟨[], []⟩, [], 0, []⟩

/-- How deep a text may be nested. -/
def nestLimit : Nat := 250

/-- The depth of the deepest item. -/
def maxDepth (items : List Item) : Nat :=
  items.foldl (fun n i => max n i.depth) 0

/-- The patterns of some items, last first, one after the other. -/
def concat (items : List Item) : Pattern :=
  match items.filterMap (·.pattern) with
  | [] => .empty
  | p :: ps => ps.foldl (fun tail p => .cat p tail) p

/-- One alternative; two items or more nest one deeper. -/
def branchOf (items : List Item) : Item :=
  ⟨some (concat items), maxDepth items + if items.length ≤ 1 then 0 else 1⟩

/-- The alternatives of a body; two or more nest one deeper. -/
def Body.item (b : Body) : Item :=
  match b.branches with
  | [] => branchOf b.items
  | branches =>
    let all := branchOf b.items :: branches
    let patterns := all.filterMap (·.pattern)
    let pattern := match patterns with
      | [] => .empty
      | p :: ps => ps.foldl (fun tail p => .alt p tail) p
    ⟨some pattern, maxDepth all + 1⟩

namespace Machine

/-- Add a pattern to what is being read. -/
def push (m : Machine) (p : Pattern) (depth : Nat) : Machine :=
  { m with body := { m.body with items := ⟨some p, depth⟩ :: m.body.items } }

/-- Start another alternative. -/
def bar (m : Machine) : Machine :=
  { m with body := ⟨branchOf m.body.items :: m.body.branches, []⟩ }

/-- Repeat the last item, if there is one that can be repeated. -/
def rep (m : Machine) (least : Nat) (most : Option Nat) (lazy : Bool) : Option Machine :=
  match m.body.items with
  | ⟨some p, depth⟩ :: items =>
    some { m with body := { m.body with
      items := ⟨some (.rep (lazy == m.flags.swapGreed) least most p), depth + 1⟩ :: items } }
  | _ => none

/-- Open a group, with a number or without, in which the flags may be others. -/
def enter (m : Machine) (index : Option Nat) (inner : Flags) : Machine :=
  { m with flags := inner, body := ⟨[], []⟩, levels := ⟨index, m.flags, m.body⟩ :: m.levels }

/-- Open a group, or change the flags of the one that is open. -/
def openHead (m : Machine) : Head → Option Machine
  | .plain inner => some (m.enter none inner)
  | .directive flags =>
    some { m with flags, body := { m.body with items := ⟨none, 0⟩ :: m.body.items } }
  | .capture => some ({ m with groups := m.groups + 1 }.enter (some (m.groups + 1)) m.flags)
  | .named name =>
    if m.names.any (·.1 = name) then none
    else
      some ({ m with
        groups := m.groups + 1
        names := (name, m.groups + 1) :: m.names }.enter (some (m.groups + 1)) m.flags)

/-- Close the innermost group. -/
def close (m : Machine) : Option Machine :=
  match m.levels with
  | [] => none
  | level :: levels =>
    let inner := m.body.item
    let p := inner.pattern.getD .empty
    let p := match level.index with
      | some i => .group i p
      | none => p
    some ({ m with flags := level.flags, body := level.outer, levels }.push p (inner.depth + 1))

end Machine

/-- The character `c` standing for itself. -/
def Flags.literal (flags : Flags) (c : Char) : Pattern :=
  .set (.single flags.fold c)

/-- Any character, apart from the ends of lines unless flags say so. -/
def Flags.dot (flags : Flags) : Option Pattern :=
  if flags.ascii then none
  else if flags.dotAll then some (.set .any)
  else if flags.crlf then some (.set (.compl (.ofRanges false [('\n', '\n'), ('\r', '\r')])))
  else some (.set (.compl (.single false '\n')))

/-- What `^` stands for. -/
def Flags.caret (flags : Flags) : Pattern :=
  .look (if flags.multiline then .lineStart flags.crlf else .textStart)

/-- What `$` stands for. -/
def Flags.dollar (flags : Flags) : Pattern :=
  .look (if flags.multiline then .lineEnd flags.crlf else .textEnd)

/-- A question mark after a repetition makes it prefer fewer copies. -/
def splitLazy : List Char → Bool × List Char
  | '?' :: cs => (true, cs)
  | cs => (false, cs)

/-- A question mark is split off, or nothing is. -/
theorem length_splitLazy_le (cs : List Char) : (splitLazy cs).2.length ≤ cs.length := by
  unfold splitLazy
  split
  · exact Nat.le_succ _
  · exact Nat.le_refl _

/-- What a pattern's text is made of. -/
inductive Piece
  | item (p : Pattern) (depth : Nat)
  | opening (head : Head)
  | closing
  | bar
  | repetition (least : Nat) (most : Option Nat) (lazy : Bool)

/-- What an escape stands for as an item. -/
def Flags.escape (flags : Flags) : Escape → Pattern
  | .literal c => flags.literal c
  | .set s => .set s
  | .look l => .look l

/-- A repetition whose counts end where `s` does. -/
def Scanned.repetition {α : Type} {n : Nat} (least : Nat) (most : Option Nat) (s : Scanned α n) :
    Scanned Piece n :=
  ⟨.repetition least most (splitLazy s.rest).1, (splitLazy s.rest).2,
    Nat.lt_of_le_of_lt (length_splitLazy_le s.rest) s.shorter⟩

/-- The piece that starts a text. -/
def scanPiece (flags : Flags) (cs : List Char) : Option (Scanned Piece cs.length) :=
  match cs with
  | [] => none
  | c :: cs =>
    let first : Scanned Char (c :: cs).length := ⟨c, cs, length_lt_cons c cs⟩
    let one (piece : Piece) : Option (Scanned Piece (c :: cs).length) :=
      some (first.map fun _ => piece)
    match c with
    | '(' =>
      (scanHead flags (flags.skip cs)).map fun s =>
        (s.map .opening).widen (flags.length_skip_lt_cons c cs)
    | ')' => one .closing
    | '|' => one .bar
    | '[' => (scanClass flags cs).map fun s => s.map fun s => .item (.set s) 2
    | '*' => some (first.repetition 0 none)
    | '+' => some (first.repetition 1 none)
    | '?' => some (first.repetition 0 (some 1))
    | '{' =>
      (scanCounts cs).map fun s =>
        (s.repetition s.value.1 s.value.2).widen (length_le_cons c cs)
    | '\\' =>
      (scanEscape flags cs).map fun s =>
        (s.map fun e => .item (flags.escape e) 0).widen (length_le_cons c cs)
    | '.' => flags.dot.bind fun p => one (.item p 0)
    | '^' => one (.item flags.caret 0)
    | '$' => one (.item flags.dollar 0)
    | c => one (.item (flags.literal c) 0)

/-- The next piece, behind what verbose patterns leave out. -/
def nextPiece (flags : Flags) (cs : List Char) : Option (Scanned Piece cs.length) :=
  (scanPiece flags (flags.skip cs)).map (·.widen (flags.length_skip_le cs))

/-- What a piece does to what has been read before it. -/
def Machine.step (m : Machine) : Piece → Option Machine
  | .item p depth => some (m.push p depth)
  | .opening head => m.openHead head
  | .closing => m.close
  | .bar => some m.bar
  | .repetition least most lazy => m.rep least most lazy

/-- Read a text to its end, where no group may be open. -/
def Machine.read (m : Machine) (cs : List Char) : Option Machine :=
  if (m.flags.skip cs).isEmpty then
    if m.levels.isEmpty then some m else none
  else
    (nextPiece m.flags cs).bind fun piece =>
      (m.step piece.value).bind fun m => m.read piece.rest
termination_by cs.length
decreasing_by exact piece.shorter

end SeriesRender.Regex

namespace SeriesRender

/-- A compiled regular expression : its pattern, and the numbers of its named groups. -/
structure Regex where
  pattern : Regex.Pattern
  names : List (String × Nat)

namespace Regex

/-- The regular expression that a text spells. -/
def ofText (text : List Char) : Except PatternError Regex :=
  match Machine.start.read text with
  | none => .error .malformed
  | some m =>
    let item := m.body.item
    let pattern := item.pattern.getD .empty
    if nestLimit < item.depth then .error .malformed
    else if pattern.isTooLarge then .error .tooLarge
    else .ok ⟨pattern, m.names⟩

/-- Whether the expression matches somewhere in the text. -/
def isMatch (r : Regex) (text : List Char) : Bool :=
  r.pattern.isMatch text

end Regex

end SeriesRender
