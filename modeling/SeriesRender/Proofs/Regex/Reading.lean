import Mathlib.Computability.Language
import SeriesRender.Proofs.Regex.Matching
import SeriesRender.Regex.Parser

/-!
# What the reader makes of its items

The reader of regular expressions keeps the items of a group, last first, until the group is closed.
Here is what becomes of them : the items of an alternative match one after the other
(`matching_concat`), a group matches what one of its alternatives does (`matching_item`). And here
is one step of the reader, of classes (`itemsFrom_eq`) and of the whole text (`Machine.read_eq`),
without the proofs that it gets on.

A pattern that asks nothing of the text around it matches a language (`Matching.free`).
-/

namespace SeriesRender.Regex

/-! ## Languages -/

namespace Matching

/-- What matches the texts of a language wherever they stand. -/
def free (L : Language Char) : Matching :=
  fun _ u _ => u ∈ L

/-- Texts that match anywhere can be matched one after the other anywhere. -/
theorem seq_free (L M : Language Char) : (free L).seq (free M) = free (L * M) := by
  funext b u r
  refine propext ⟨?_, ?_⟩
  · rintro ⟨v, w, rfl, hv, hw⟩
    exact Language.append_mem_mul hv hw
  · intro h
    obtain ⟨v, hv, w, hw, rfl⟩ := Language.mem_mul.1 h
    exact ⟨v, w, rfl, hv, hw⟩

end Matching

/-! ## Items -/

/-- Patterns one after the other, last first. -/
def inTurn : List Pattern → Matching
  | [] => Matching.empty
  | p :: ps => (inTurn ps).seq p.matching

theorem inTurn_append (ps qs : List Pattern) :
    inTurn (ps ++ qs) = (inTurn qs).seq (inTurn ps) := by
  induction ps with
  | nil => exact Matching.seq_empty.symm
  | cons p ps ih => rw [List.cons_append, inTurn, ih, Matching.seq_assoc, inTurn]

/-- A concatenation matches its patterns in turn. -/
theorem matching_concat (items : List Item) :
    (concat items).matching = inTurn (items.filterMap (·.pattern)) := by
  have hfold : ∀ (ps : List Pattern) (p : Pattern),
      (ps.foldl (fun tail p => .cat p tail) p).matching = (inTurn ps).seq p.matching := by
    intro ps
    induction ps with
    | nil => exact fun p => Matching.empty_seq.symm
    | cons q ps ih =>
      intro p
      rw [List.foldl_cons, ih, inTurn, Matching.seq_assoc]
      rfl
  unfold concat
  split
  · next h =>
    rw [h]
    rfl
  · next p ps h =>
    rw [h, hfold]
    rfl

/-- What one of some alternatives matches. -/
def anyOf (items : List Item) : Matching :=
  fun b u r => ∃ i ∈ items, ∃ p ∈ i.pattern, p.matching b u r

/-- A branch is one more way to match. -/
theorem anyOf_branchOf (items branches : List Item) (b : Option Char) (u r : List Char) :
    anyOf (branchOf items :: branches) b u r ↔
      (concat items).matching b u r ∨ anyOf branches b u r := by
  simp [anyOf, branchOf]

/-- A group matches what one of its alternatives does. -/
theorem matching_item (o : Body) : (o.item.pattern.getD .empty).matching =
    fun b u r => (concat o.items).matching b u r ∨ anyOf o.branches b u r := by
  have hfold : ∀ (ps : List Pattern) (p : Pattern) b u r,
      (ps.foldl (fun tail p => .alt p tail) p).matching b u r ↔
        p.matching b u r ∨ ∃ q ∈ ps, q.matching b u r := by
    intro ps
    induction ps with
    | nil => simp
    | cons q ps ih =>
      intro p b u r
      rw [List.foldl_cons, ih]
      simp [Pattern.matching, or_assoc, or_left_comm]
  funext b u r
  refine propext ?_
  unfold Body.item
  split
  · next h => simp [branchOf, anyOf, h]
  · have hall : (branchOf o.items :: o.branches).filterMap (·.pattern) =
        concat o.items :: o.branches.filterMap (·.pattern) := rfl
    dsimp only
    rw [hall]
    refine (hfold _ _ b u r).trans (or_congr_right ⟨?_, ?_⟩)
    · rintro ⟨q, hq, h⟩
      obtain ⟨i, hi, hp⟩ := List.mem_filterMap.1 hq
      exact ⟨i, hi, q, hp, h⟩
    · rintro ⟨i, hi, q, hp, h⟩
      exact ⟨q, List.mem_filterMap.2 ⟨i, hi, hp⟩, h⟩

/-! ## Readings without their proofs -/

/-- What was read, and the rest of the text. -/
def Scanned.out {α : Type} {n : Nat} (s : Scanned α n) : α × List Char :=
  (s.value, s.rest)

theorem map_out_map_widen {α : Type} {m n : Nat} (s : Option (Scanned α m)) (h : m ≤ n) :
    (s.map (·.widen h)).map Scanned.out = s.map Scanned.out := by
  cases s <;> rfl

/-- `scanItems` without the proof that the rest is shorter. -/
def itemsFrom (o : OpenClass) (around : List OpenClass) (items : CharClass) (cs : List Char) :
    Option (CharClass × List Char) :=
  (scanItems {} o around items cs).map Scanned.out

/-- A class goes on by its next piece. -/
theorem itemsFrom_eq (o : OpenClass) (around : List OpenClass) (items : CharClass)
    (cs : List Char) :
    itemsFrom o around items cs = ((scanClassPiece {} cs).map Scanned.out).bind fun p =>
      match p.1 with
      | .member s => itemsFrom o around (items.add s) p.2
      | .opening negated start => itemsFrom ⟨negated, items, none⟩ (o :: around) start p.2
      | .operator op => itemsFrom { o with left := some (op, o.settle items) } around .nothing p.2
      | .closing =>
        match around with
        | [] => some (o.close items, p.2)
        | outer :: around => itemsFrom outer around (o.outer.add (o.close items)) p.2 := by
  have hafter : ∀ {n : Nat} (first : Scanned ClassPiece n) (o : OpenClass)
      (around : List OpenClass) (items : CharClass),
      ((scanItems {} o around items first.rest).map (Scanned.after first)).map Scanned.out =
        itemsFrom o around items first.rest := by
    intro n first o around items
    rw [itemsFrom, Option.map_map]
    rfl
  have hnext : nextClassPiece {} cs = scanClassPiece {} cs := by
    change (scanClassPiece {} cs).map (·.widen (Nat.le_refl _)) = scanClassPiece {} cs
    cases scanClassPiece {} cs <;> rfl
  rw [itemsFrom, scanItems.eq_def, hnext]
  cases scanClassPiece {} cs with
  | none => rfl
  | some piece =>
    obtain ⟨value, rest, hrest⟩ := piece
    cases value with
    | member s => exact hafter _ o around (items.add s)
    | opening negated start => exact hafter _ ⟨negated, items, none⟩ (o :: around) start
    | operator op => exact hafter _ { o with left := some (op, o.settle items) } around .nothing
    | closing =>
      have hascii : ¬ (o.negated && ({} : Flags).ascii) = true := by simp
      refine (congrArg (Option.map Scanned.out) (if_neg hascii)).trans ?_
      cases around with
      | nil => rfl
      | cons outer around => exact hafter _ outer around (o.outer.add (o.close items))

/-- One step of the reader where no flags are set. -/
theorem Machine.read_eq {m : Machine} (hm : m.flags = {}) {cs : List Char} (hcs : cs ≠ []) :
    m.read cs = ((scanPiece {} cs).map Scanned.out).bind fun p =>
      (m.step p.1).bind fun m => m.read p.2 := by
  have hnext : nextPiece {} cs = scanPiece {} cs := by
    change (scanPiece {} cs).map (·.widen (Nat.le_refl _)) = scanPiece {} cs
    cases scanPiece {} cs <;> rfl
  have hskip : ¬ (({} : Flags).skip cs).isEmpty = true := fun h => hcs (List.isEmpty_iff.1 h)
  rw [Machine.read.eq_def, hm, if_neg hskip, hnext]
  cases scanPiece {} cs <;> rfl

theorem Machine.read_nil {m : Machine} (hlevels : m.levels = []) (hm : m.flags = {}) :
    m.read [] = some m := by
  rw [Machine.read.eq_def, hm, hlevels]
  rfl

/-- A machine that has read more items, last first. -/
def Machine.add (m : Machine) (items : List Item) : Machine :=
  { m with body := { m.body with items := items ++ m.body.items } }

/-- Items are added in two steps or in one. -/
theorem Machine.add_add (m : Machine) (is js : List Item) :
    (m.add is).add js = m.add (js ++ is) := by
  simp only [Machine.add, List.append_assoc]

/-! ## Limits -/

/-- The pattern of a machine that has read a whole text. -/
def Machine.pattern (m : Machine) : Pattern :=
  m.body.item.pattern.getD .empty

/-- Whether what was read is neither nested too deep nor too large. -/
def Machine.Fits (m : Machine) : Prop :=
  m.body.item.depth ≤ nestLimit ∧ m.pattern.isTooLarge = false

/-- A text is a regular expression if it can be read to its end and is not too large. -/
theorem ofText_eq_ok_iff {text : List Char} {r : Regex} : Regex.ofText text = .ok r ↔
    ∃ m, Machine.start.read text = some m ∧ m.Fits ∧ r = ⟨m.pattern, m.names⟩ := by
  unfold Regex.ofText
  cases Machine.start.read text with
  | none => exact iff_of_false (fun h => by cases h) fun ⟨m, h, _⟩ => by cases h
  | some m =>
    dsimp only
    split
    · next hdepth =>
      refine iff_of_false (fun h => by cases h) ?_
      rintro ⟨_, heq, ⟨hle, -⟩, -⟩
      cases heq
      exact absurd hdepth (Nat.not_lt.2 hle)
    · next hdepth =>
      split
      · next hlarge =>
        refine iff_of_false (fun h => by cases h) ?_
        rintro ⟨_, heq, ⟨-, hsmall⟩, -⟩
        cases heq
        exact Bool.false_ne_true (hsmall.symm.trans hlarge)
      · next hlarge =>
        constructor
        · intro h
          exact ⟨m, rfl, ⟨Nat.not_lt.1 hdepth, Bool.not_eq_true _ ▸ hlarge⟩, (Except.ok.inj h).symm⟩
        · rintro ⟨_, heq, -, rfl⟩
          cases heq
          rfl

end SeriesRender.Regex
