import Mathlib.Data.List.Infix
import SeriesRender.Proofs.Glob.Segments

/-!
# Characters that are listed in a class

A class of a path pattern is meant to have the characters that are listed in it, and its complement
all others. In the regular expression that it is written into, a `^` at the start is another mark of
a complement, and `&&` and `~~` are operators on the characters before and behind them (`operands`).
Without hyphens a class has the characters that the operators leave it (`survives`,
`exists_classSet?`). So it means what is listed in it exactly if it does not start with a `^` and
its operators leave all that is listed (`lists_iff`), which they do not in `[a&&b]`.
-/

namespace SeriesRender.Regex

/-! ## One character in a class -/

/-- Whether an operation keeps a character, by whether its halves hold it. -/
def ClassOp.keeps : ClassOp → Bool → Bool → Bool
  | .inter, a, b => a && b
  | .diff, a, b => a && !b
  | .symmDiff, a, b => a != b

/-- An operator decides about each character from what is said about it on either side. -/
theorem ClassOp.contains_apply (op : ClassOp) (a b : CharClass) (c : Char) :
    (op.apply a b).contains c = op.keeps (a.contains c) (b.contains c) := by
  cases op <;> rfl

/-- No operator keeps what is on neither side. -/
theorem ClassOp.keeps_false (op : ClassOp) : op.keeps false false = false := by
  cases op <;> rfl

/-- An item that is added to a class adds its characters. -/
theorem CharClass.contains_add (s t : CharClass) (c : Char) :
    (s.add t).contains c = (s.contains c || t.contains c) := by
  cases s <;> rfl

/-- Whether an open class has a character, by whether it holds it since its last operator. -/
def OpenClass.keeps (o : OpenClass) (c : Char) (found : Bool) : Bool :=
  match o.left with
  | none => found
  | some (op, left) => op.keeps (left.contains c) found

/-- The operator that is waiting is applied to the items since. -/
theorem OpenClass.contains_settle (o : OpenClass) (items : CharClass) (c : Char) :
    (o.settle items).contains c = o.keeps c (items.contains c) := by
  unfold settle keeps
  cases o.left with
  | none => rfl
  | some p => exact p.1.contains_apply p.2 items c

/-- At the end of a class the operator is applied for the last time, and then the complement is
taken. -/
theorem OpenClass.contains_close (o : OpenClass) (items : CharClass) (c : Char) :
    (o.close items).contains c = (o.negated != o.keeps c (items.contains c)) := by
  unfold close
  cases o.negated <;> simp [CharClass.contains, contains_settle]

end SeriesRender.Regex

namespace SeriesRender.Glob

open Regex

/-! ## Operators -/

/-- The characters of a class up to its first operator, and each operator with those behind it. -/
def operands : List Char → List Char × List (ClassOp × List Char)
  | [] => ([], [])
  | '&' :: '&' :: cs => ([], (.inter, (operands cs).1) :: (operands cs).2)
  | '~' :: '~' :: cs => ([], (.symmDiff, (operands cs).1) :: (operands cs).2)
  | c :: cs => (c :: (operands cs).1, (operands cs).2)

/-- Whether a character is left if the operators are applied from left to right. -/
def settled (c : Char) (found : Bool) (rest : List (ClassOp × List Char)) : Bool :=
  rest.foldl (fun found p => p.1.keeps found (decide (c ∈ p.2))) found

/-- Whether the operators of a class leave it a character that is listed in it. -/
def survives (body : List Char) (c : Char) : Bool :=
  settled c (decide (c ∈ (operands body).1)) (operands body).2

variable {body : List Char} {c : Char}

/-- The rest of a class without hyphens, `items` being what it holds so far. -/
theorem exists_bodySet? (h : '-' ∉ body) (o : OpenClass) (items : CharClass) :
    ∃ s, bodySet? o items body = some s ∧ ∀ c,
      let found := items.contains c || decide (c ∈ (operands body).1)
      s.contains c = (o.negated != settled c (o.keeps c found) (operands body).2) := by
  fun_induction bodySet? o items body with
  | case1 o items =>
    refine ⟨_, rfl, fun c => ?_⟩
    rw [o.contains_close]
    simp [operands, settled]
  | case2 o items cs ih | case4 o items cs ih =>
    -- what was found up to the operator is the left half from there on
    obtain ⟨s, hs, hcontains⟩ := ih (by simpa using h)
    refine ⟨s, hs, fun c => ?_⟩
    rw [hcontains c]
    simp [operands, settled, OpenClass.keeps, OpenClass.contains_settle, CharClass.contains]
  | case3 | case5 | case6 | case7 => simp at h
  | case8 o items c cs hand _ htilde _ ih =>
    obtain ⟨s, hs, hcontains⟩ := ih (List.not_mem_of_not_mem_cons h)
    refine ⟨s, hs, fun d => ?_⟩
    have hsingle : (CharClass.single false c).contains d = decide (d = c) :=
      Bool.eq_iff_iff.2 (contains_single.trans decide_eq_true_iff.symm)
    have hoperands : operands (c :: cs) = (c :: (operands cs).1, (operands cs).2) :=
      operands.eq_4 c cs hand htilde
    rw [hcontains d, hoperands, CharClass.contains_add, hsingle]
    simp [Bool.or_assoc]

/-- The operators of a class stand between characters that are listed in it. -/
theorem mem_of_mem_operands (body : List Char) :
    (c ∈ (operands body).1 → c ∈ body) ∧ ∀ p ∈ (operands body).2, c ∈ p.2 → c ∈ body := by
  fun_induction operands body with
  | case1 => simp
  | case2 cs ih | case3 cs ih =>
    obtain ⟨hfirst, hrest⟩ := ih
    have htail : ∀ d : Char, c ∈ cs → c ∈ d :: d :: cs :=
      fun d h => List.mem_cons_of_mem d (List.mem_cons_of_mem d h)
    refine ⟨fun h => absurd h List.not_mem_nil, List.forall_mem_cons.2 ⟨?_, ?_⟩⟩
    · exact fun h => htail _ (hfirst h)
    · exact fun p hp h => htail _ (hrest p hp h)
  | case4 d cs _ _ ih =>
    obtain ⟨hfirst, hrest⟩ := ih
    refine ⟨fun h => ?_, fun p hp h => List.mem_cons_of_mem _ (hrest p hp h)⟩
    exact List.mem_cons.2 ((List.mem_cons.1 h).imp_right hfirst)

/-- A character that no operand has is kept by none of the operators. -/
theorem settled_false {rest : List (ClassOp × List Char)} (h : ∀ p ∈ rest, c ∉ p.2) :
    settled c false rest = false := by
  induction rest with
  | nil => rfl
  | cons p rest ih =>
    rw [List.forall_mem_cons] at h
    have hp : p.1.keeps false (decide (c ∈ p.2)) = false := by
      rw [decide_eq_false h.1, p.1.keeps_false]
    rw [settled, List.foldl_cons, hp]
    exact ih h.2

/-- Operators add no characters. -/
theorem mem_of_survives (h : survives body c = true) : c ∈ body := by
  by_contra hc
  obtain ⟨hfirst, hrest⟩ := mem_of_mem_operands body (c := c)
  rw [survives, decide_eq_false (mt hfirst hc), settled_false fun p hp => mt (hrest p hp) hc] at h
  cases h

/-- A class without operators keeps what is listed in it. -/
theorem operands_of_not_infix (hand : ¬['&', '&'] <:+: body) (htilde : ¬['~', '~'] <:+: body) :
    operands body = (body, []) := by
  fun_induction operands body with
  | case1 => rfl
  | case2 cs => exact absurd ⟨[], cs, rfl⟩ hand
  | case3 cs => exact absurd ⟨[], cs, rfl⟩ htilde
  | case4 c cs _ _ ih =>
    have htail : cs <:+: c :: cs := (List.suffix_cons c cs).isInfix
    rw [ih (fun h => hand (h.trans htail)) fun h => htilde (h.trans htail)]

/-! ## Sets and matches -/

/-- The set of a class without hyphens that does not start with a `^`. -/
theorem exists_classSet? (hne : body ≠ []) (hhyphen : '-' ∉ body) {negated : Bool}
    (hcaret : negated = false → body.head? ≠ some '^') :
    ∃ s, classSet? negated body = some s ∧ ∀ c, s.contains c = (negated != survives body c) := by
  obtain ⟨s, hs, hcontains⟩ := exists_bodySet? hhyphen ⟨negated, .nothing, none⟩ .nothing
  obtain ⟨d, cs, rfl⟩ := List.exists_cons_of_ne_nil hne
  have hsplit : splitCaret negated (d :: cs) = (negated, d :: cs) := by
    refine splitCaret.eq_2 negated (d :: cs) fun ds hn heq => ?_
    obtain ⟨rfl, -⟩ := List.cons.inj heq
    exact hcaret hn rfl
  have hstart : bodyStart? (d :: cs) = some (.nothing, d :: cs) := by
    refine bodyStart?.eq_3 d cs ?_
    rintro rfl
    exact hhyphen (List.mem_cons_self ..)
  refine ⟨s, ?_, hcontains⟩
  rw [classSet?, hsplit, hstart]
  exact hs

/-- Whether a pattern has a matcher, and it matches. -/
def Matches (pattern name : List Char) : Prop :=
  ∃ r, compile pattern = .ok r ∧ r.isMatch name = true

/-- A pattern that is one class matches the characters of the class. -/
theorem matches_classPattern_iff {negated : Bool} (hclose : ']' ∉ body)
    (hmark : negated = false → body.head? ≠ some '!') :
    Matches (classPattern negated body) [c] ↔
      ∃ s, classSet? negated body = some s ∧ s.contains c = true := by
  have hspells := spells_classPattern hclose hmark
  constructor
  · rintro ⟨r, hr, hmatch⟩
    have hmem := (isMatch_iff hspells hr [c]).1 hmatch
    rw [Tree.language, Tree.language, mul_one] at hmem
    obtain ⟨d, ⟨s, hs, hd⟩, heq⟩ := hmem
    obtain rfl := List.singleton_inj.1 heq
    exact ⟨s, hs, hd⟩
  · rintro ⟨s, hs, hc⟩
    obtain ⟨r, hr, hmatch⟩ := compile_classPattern hclose hmark hs
    exact ⟨r, hr, (hmatch [c]).2 ⟨c, hc, rfl⟩⟩

/-- A class that starts with a `^` has other characters than those that are listed in it. -/
theorem exists_unlisted_caret {cs : List Char} (hclose : ']' ∉ '^' :: cs)
    (hhyphen : '-' ∉ '^' :: cs) :
    ∃ c, c ≠ '.' ∧ ¬(Matches (classPattern false ('^' :: cs)) [c] ↔ c ∈ '^' :: cs) := by
  have hmatches : ∀ {c}, Matches (classPattern false ('^' :: cs)) [c] ↔
      ∃ s, classSet? true cs = some s ∧ s.contains c = true :=
    matches_classPattern_iff hclose fun _ => by simp
  by_cases hcs : cs = []
  · -- without another character the closing bracket is one, and the class has no end
    subst hcs
    refine ⟨'^', by decide, fun h => ?_⟩
    obtain ⟨s, hs, -⟩ := hmatches.1 (h.2 (List.mem_cons_self ..))
    cases hs
  · -- a closing bracket is in the complement of what is listed
    obtain ⟨s, hs, hcontains⟩ := exists_classSet? hcs (List.not_mem_of_not_mem_cons hhyphen)
      fun h : true = false => absurd h (by decide)
    have hsurvives : survives cs ']' = false :=
      Bool.eq_false_iff.2 fun h => hclose (List.mem_cons_of_mem _ (mem_of_survives h))
    refine ⟨']', by decide, fun h => hclose (h.1 (hmatches.2 ⟨s, hs, ?_⟩))⟩
    rw [hcontains, hsurvives]
    rfl

/-- A class and its complement mean what is listed, up to the dot, exactly if the class does not
start with a `^` and keeps all that is listed. It does so if no operator stands in it. -/
theorem lists_iff (hne : body ≠ []) (hclose : ']' ∉ body) (hhyphen : '-' ∉ body)
    (hmark : body.head? ≠ some '!') :
    ((∀ c, c ≠ '.' → (Matches (classPattern false body) [c] ↔ c ∈ body) ∧
        (Matches (classPattern true body) [c] ↔ c ∉ body)) ↔
      body.head? ≠ some '^' ∧ ∀ c ∈ body, c ≠ '.' → survives body c = true) ∧
    (¬['&', '&'] <:+: body → ¬['~', '~'] <:+: body → ∀ c ∈ body, survives body c = true) := by
  have hmatches : ∀ {negated : Bool} {c : Char}, (negated = false → body.head? ≠ some '^') →
      (Matches (classPattern negated body) [c] ↔ (negated != survives body c) = true) := by
    intro negated c hcaret
    obtain ⟨s, hs, hcontains⟩ := exists_classSet? hne hhyphen hcaret
    rw [matches_classPattern_iff hclose fun _ => hmark, hs]
    simp [hcontains]
  constructor
  · constructor
    · intro h
      have hcaret : body.head? ≠ some '^' := by
        intro hhead
        obtain ⟨cs, rfl⟩ := List.head?_eq_some_iff.1 hhead
        obtain ⟨c, hc, hnot⟩ := exists_unlisted_caret hclose hhyphen
        exact hnot (h c hc).1
      refine ⟨hcaret, fun c hmem hc => ?_⟩
      have hmatch := (h c hc).1.2 hmem
      rw [hmatches fun _ => hcaret] at hmatch
      simpa using hmatch
    · rintro ⟨hcaret, hsurvives⟩ c hc
      have hmem : survives body c = true ↔ c ∈ body :=
        ⟨mem_of_survives, fun h => hsurvives c h hc⟩
      rw [hmatches fun _ => hcaret, hmatches (fun h => absurd h (by decide))]
      simp [← hmem]
  · intro hand htilde c hc
    rw [survives, operands_of_not_infix hand htilde]
    exact decide_eq_true hc

/-- The class `[a^&]` has three characters. -/
theorem lists_iff_threeMarks :
    let body := ['a', '^', '&']
    body ≠ [] ∧ ']' ∉ body ∧ '-' ∉ body ∧ body.head? ≠ some '!' ∧
      ¬['&', '&'] <:+: body ∧ ¬['~', '~'] <:+: body ∧
      ∀ c, c ≠ '.' → (Matches (classPattern false body) [c] ↔ c ∈ body) ∧
        (Matches (classPattern true body) [c] ↔ c ∉ body) := by
  intro body
  have hbody : body ≠ [] ∧ ']' ∉ body ∧ '-' ∉ body ∧ body.head? ≠ some '!' ∧
      ¬['&', '&'] <:+: body ∧ ¬['~', '~'] <:+: body := by
    decide
  obtain ⟨hne, hclose, hhyphen, hmark, hand, htilde⟩ := hbody
  obtain ⟨hlists, hsurvives⟩ := lists_iff hne hclose hhyphen hmark
  exact ⟨hne, hclose, hhyphen, hmark, hand, htilde,
    hlists.2 ⟨by simp [body], fun c hc _ => hsurvives hand htilde c hc⟩⟩

/-- But `[a&&b]` does not match `a`, as no character stands on both sides. -/
theorem not_lists :
    ¬∀ (body : List Char) (c : Char), body ≠ [] → ']' ∉ body → '-' ∉ body →
      body.head? ≠ some '!' → c ≠ '.' →
      (Matches (classPattern false body) [c] ↔ c ∈ body) ∧
        (Matches (classPattern true body) [c] ↔ c ∉ body) := by
  intro h
  obtain ⟨hlisted, -⟩ :=
    h ['a', '&', '&', 'b'] 'a' (by simp) (by simp) (by simp) (by simp) (by simp)
  obtain ⟨s, hs, hc⟩ := (matches_classPattern_iff (by simp) (by simp)).1 (hlisted.2 (by simp))
  obtain rfl := Option.some.inj hs
  exact absurd hc (by decide)

end SeriesRender.Glob
