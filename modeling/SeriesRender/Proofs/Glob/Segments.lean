import SeriesRender.Proofs.Glob.Reading

/-!
# Segments

A path is split into segments at its dots. `*` and `?` take no dot, but a class can : one that is a
complement, and one with a range or an operator that happens to cover the dot (`takesDot`). Each
such class of a pattern may take one dot more than the pattern has, and no more come from elsewhere
(`count_dot_of_isMatch`); if a pattern matches anything, it matches a path in which all of them do
(`exists_isMatch_count_dot`). So a pattern keeps to its segments exactly if none of its classes
takes a dot, or nothing matches it at all (`keepsSegments_iff`), and `a[!x]b` does not.
-/

namespace SeriesRender.Glob

open Regex

/-! ## A single class -/

/-- A class by itself is a pattern of one piece. -/
theorem spells_classPattern {negated : Bool} {body : List Char} (h : ']' ∉ body)
    (hmark : negated = false → body.head? ≠ some '!') :
    Spells false (classPattern negated body) (.cons (.cls negated body) .nil) := by
  rw [← List.append_nil (classPattern negated body)]
  exact .cons (.cls h hmark) .nil

/-- A set never compiles to more than 400 states. -/
theorem states_set_le (s : CharClass) : (Pattern.set s).states ≤ 400 := by
  cases s with
  | range folded low high =>
    have hsize : low.utf8Size ≤ 400 := Nat.le_trans (Char.utf8Size_le_four low) (by decide)
    change (if low = high then low.utf8Size else if high.toNat < 128 then 1 else 12) ≤ 400
    by_cases heq : low = high
    · rwa [if_pos heq]
    · rw [if_neg heq]
      by_cases hascii : high.toNat < 128
      · rw [if_pos hascii]
        decide
      · rw [if_neg hascii]
        decide
  | _ => exact Nat.le_of_ble_eq_true rfl

/-- A pattern that is one class is accepted if the class stands for a set, and matches its
characters. -/
theorem compile_classPattern {negated : Bool} {body : List Char} (h : ']' ∉ body)
    (hmark : negated = false → body.head? ≠ some '!') {s : CharClass}
    (hs : classSet? negated body = some s) :
    ∃ r, compile (classPattern negated body) = .ok r ∧
      ∀ n, r.isMatch n = true ↔ ∃ c, s.contains c = true ∧ n = [c] := by
  have hspells := spells_classPattern h hmark
  have hitems : (Tree.cons (.cls negated body) .nil).items? = some [⟨some (.set s), 2⟩] := by
    rw [Tree.items?, Piece.item?, hs]
    rfl
  have hfits : (anchored [⟨some (.set s), 2⟩]).Fits := by
    have hstates := states_set_le s
    refine ⟨Nat.le_of_ble_eq_true rfl, decide_eq_false (Nat.not_lt.2 ?_)⟩
    change (1 + ((Pattern.set s).states + 1)) * 32 ≤ 10485760
    omega
  obtain ⟨r, hr⟩ : ∃ r, compile (classPattern negated body) = .ok r :=
    ⟨_, (compile_eq_ok_iff hspells).2 ⟨_, hitems, hfits, rfl⟩⟩
  refine ⟨r, hr, fun n => (isMatch_iff hspells hr n).trans ?_⟩
  rw [Tree.language, Tree.language, mul_one]
  refine exists_congr fun c => and_congr_left fun _ => ?_
  simp [hs]

/-- Whether a class, as a pattern of its own, matches a dot. -/
def takesDot (cls : Bool × List Char) : Bool :=
  match compile (classPattern cls.1 cls.2) with
  | .ok r => r.isMatch ['.']
  | .error _ => false

/-- Whether a class takes a dot can be seen from its body. -/
theorem takesDot_iff {negated : Bool} {body : List Char} (h : ']' ∉ body)
    (hmark : negated = false → body.head? ≠ some '!') {s : CharClass}
    (hs : classSet? negated body = some s) :
    takesDot (negated, body) = true ↔ s.contains '.' = true := by
  obtain ⟨r, hr, hmatch⟩ := compile_classPattern h hmark hs
  rw [takesDot, hr]
  refine (hmatch ['.']).trans ⟨?_, fun h => ⟨'.', h, rfl⟩⟩
  rintro ⟨c, hc, heq⟩
  rwa [(List.cons.inj heq).1]

/-! ## Dots of a piece and of a pattern -/

/-- The classes of a piece that is no choice. -/
def Piece.classes : Piece → List (Bool × List Char)
  | .cls negated body => [(negated, body)]
  | _ => []

/-- The classes of a pattern outside its choices. -/
def Tree.classes : Tree → List (Bool × List Char)
  | .nil => []
  | .cons p t => p.classes ++ t.classes

/-- The dots that texts have beyond those of the pattern : at most one for each class that takes a
dot, and where there are texts, some has all of these. -/
structure DotsUpTo (dots extra : Nat) (L : Language Char) : Prop where
  le : ∀ u ∈ L, dots ≤ u.count '.' ∧ u.count '.' ≤ dots + extra
  attained : ∀ u ∈ L, ∃ v ∈ L, v.count '.' = dots + extra

/-- The dots of a concatenation are those of its parts. -/
theorem DotsUpTo.mul {d d' e e' : Nat} {L M : Language Char} (h : DotsUpTo d e L)
    (h' : DotsUpTo d' e' M) : DotsUpTo (d + d') (e + e') (L * M) := by
  constructor
  · intro u hu
    obtain ⟨v, hv, w, hw, rfl⟩ := Language.mem_mul.1 hu
    have hle := h.le v hv
    have hle' := h'.le w hw
    rw [List.count_append]
    omega
  · intro u hu
    obtain ⟨v, hv, w, hw, rfl⟩ := Language.mem_mul.1 hu
    obtain ⟨x, hx, hcount⟩ := h.attained v hv
    obtain ⟨y, hy, hcount'⟩ := h'.attained w hw
    refine ⟨x ++ y, Language.append_mem_mul hx hy, ?_⟩
    rw [List.count_append]
    omega

theorem DotsUpTo.of_forall {dots : Nat} {L : Language Char} (h : ∀ u ∈ L, u.count '.' = dots) :
    DotsUpTo dots 0 L :=
  ⟨fun u hu => by rw [h u hu]; exact ⟨Nat.le_refl _, Nat.le_refl _⟩, fun u hu => ⟨u, hu, h u hu⟩⟩

/-- A class takes a dot at most once, and only if it is one of those that can. -/
theorem dotsUpTo_class {negated : Bool} {body : List Char} (hclose : ']' ∉ body)
    (hmark : negated = false → body.head? ≠ some '!') (hdot : '.' ∉ body) :
    DotsUpTo ((classPattern negated body).count '.')
      ((Piece.cls negated body).classes.countP takesDot) (Piece.cls negated body).language := by
  have hnone : (classPattern negated body).count '.' = 0 :=
    List.count_eq_zero.2 (by cases negated <;> simp [classPattern, hdot])
  have hmem : ∀ {u}, u ∈ (Piece.cls negated body).language →
      ∃ c s, u = [c] ∧ classSet? negated body = some s ∧ s.contains c = true := by
    rintro u ⟨c, ⟨s, hs, hc⟩, rfl⟩
    exact ⟨c, s, rfl, hs, hc⟩
  rw [hnone, Piece.classes, List.countP_singleton]
  cases htakes : takesDot (negated, body) with
  | false =>
    refine .of_forall fun u hu => ?_
    obtain ⟨c, s, rfl, hs, hc⟩ := hmem hu
    refine List.count_eq_zero.2 fun hcdot => ?_
    rw [List.mem_singleton] at hcdot
    rw [← hcdot, ← takesDot_iff hclose hmark hs, htakes] at hc
    cases hc
  | true =>
    constructor
    · intro u hu
      obtain ⟨c, s, rfl, -, -⟩ := hmem hu
      exact ⟨Nat.zero_le _, by simpa using List.count_le_length (a := '.') (l := [c])⟩
    · intro u hu
      obtain ⟨c, s, rfl, hs, -⟩ := hmem hu
      exact ⟨['.'], ⟨'.', ⟨s, hs, (takesDot_iff hclose hmark hs).1 htakes⟩, rfl⟩, rfl⟩

/-- The dots of a piece : those that are written, and at most one more for each class that takes
dots. -/
theorem dotsUpTo_piece {inside : Bool} {q : List Char} {p : Piece} (h : SpellsPiece inside q p)
    (hbrace : '{' ∉ q) (hdot : ∀ cls ∈ p.classes, '.' ∉ cls.2) :
    DotsUpTo (q.count '.') (p.classes.countP takesDot) p.language := by
  cases h with
  | @char _ c h => exact .of_forall fun u (hu : u = [c]) => by rw [hu]
  | one =>
    refine .of_forall fun u hu => ?_
    obtain ⟨c, hc, rfl⟩ := hu
    exact List.count_eq_zero.2 (by simpa using Ne.symm hc)
  | run => exact .of_forall fun u hu => List.count_eq_zero.2 hu
  | @cls _ negated body hclose hmark =>
    exact dotsUpTo_class hclose hmark (hdot (negated, body) (List.mem_singleton_self _))
  | choice => exact absurd (List.mem_cons_self ..) hbrace

theorem dotsUpTo_tree : ∀ {inside : Bool} {q : List Char} {t : Tree}, Spells inside q t →
    '{' ∉ q → (∀ cls ∈ t.classes, '.' ∉ cls.2) →
    DotsUpTo (q.count '.') (t.classes.countP takesDot) t.language
  | _, _, _, .nil, _, _ => .of_forall fun u (hu : u = []) => by rw [hu]
  | _, _, _, .cons hp ht, hbrace, hdot => by
    rw [List.mem_append, not_or] at hbrace
    rw [Tree.classes, List.forall_mem_append] at hdot
    rw [List.count_append, Tree.classes, List.countP_append]
    exact (dotsUpTo_piece hp hbrace.1 hdot.1).mul (dotsUpTo_tree ht hbrace.2 hdot.2)

variable {p : List Char} {t : Tree} {r : Regex}

/-- A match has at least the dots of the pattern, and at most one more for each class that takes a
dot. -/
theorem count_dot_of_isMatch (ht : Spells false p t) (hbrace : '{' ∉ p)
    (hdot : ∀ cls ∈ t.classes, '.' ∉ cls.2) (hr : compile p = .ok r) {n : List Char}
    (hn : r.isMatch n = true) :
    p.count '.' ≤ n.count '.' ∧ n.count '.' ≤ p.count '.' + t.classes.countP takesDot :=
  (dotsUpTo_tree ht hbrace hdot).le n ((isMatch_iff ht hr n).1 hn)

/-- If anything matches, something has all the dots that it may have. -/
theorem exists_isMatch_count_dot (ht : Spells false p t) (hbrace : '{' ∉ p)
    (hdot : ∀ cls ∈ t.classes, '.' ∉ cls.2) (hr : compile p = .ok r) {n : List Char}
    (hn : r.isMatch n = true) :
    ∃ n, r.isMatch n = true ∧ n.count '.' = p.count '.' + t.classes.countP takesDot := by
  obtain ⟨v, hv, hcount⟩ := (dotsUpTo_tree ht hbrace hdot).attained n ((isMatch_iff ht hr n).1 hn)
  exact ⟨v, (isMatch_iff ht hr v).2 hv, hcount⟩

/-- A pattern without choices keeps to its segments exactly if none of its classes takes a dot, or
it matches nothing. -/
theorem keepsSegments_iff (ht : Spells false p t) (hbrace : '{' ∉ p)
    (hdot : ∀ cls ∈ t.classes, '.' ∉ cls.2) (hr : compile p = .ok r) :
    (∀ n, r.isMatch n = true → n.count '.' = p.count '.') ↔
      (∃ n, r.isMatch n = true) → ∀ cls ∈ t.classes, takesDot cls = false := by
  constructor
  · rintro hkeeps ⟨n, hn⟩ cls hcls
    obtain ⟨v, hv, hcount⟩ := exists_isMatch_count_dot ht hbrace hdot hr hn
    have hzero : t.classes.countP takesDot = 0 := by
      have := hkeeps v hv
      omega
    exact Bool.eq_false_iff.2 (List.countP_eq_zero.1 hzero cls hcls)
  · intro hclasses n hn
    have hzero : t.classes.countP takesDot = 0 :=
      List.countP_eq_zero.2 fun cls hcls => Bool.eq_false_iff.1 (hclasses ⟨n, hn⟩ cls hcls)
    have := count_dot_of_isMatch ht hbrace hdot hr hn
    omega

/-! ## A complement that takes a dot -/

/-- The pattern `a[!x]b`. -/
def complementPattern : List Char :=
  ['a', '[', '!', 'x', ']', 'b']

/-- The tree of that pattern. -/
def complementTree : Tree :=
  .cons (.char 'a') (.cons (.cls true ['x']) (.cons (.char 'b') .nil))

theorem spells_complementTree : Spells false complementPattern complementTree :=
  have hplain : ∀ c ∈ ['a', 'b'], IsPlain false c := by
    intro c hc
    rw [List.mem_cons, List.mem_singleton] at hc
    rcases hc with rfl | rfl <;> exact ⟨by decide, fun h => absurd h (by decide)⟩
  .cons (q := ['a']) (.char (hplain 'a' (by decide)))
    (.cons (q := classPattern true ['x']) (.cls (by decide) fun h => absurd h (by decide))
      (.cons (q := ['b']) (.char (hplain 'b' (by decide))) .nil))

theorem exists_isMatch_complementPattern :
    ∃ r, compile complementPattern = .ok r ∧ r.isMatch ['a', '.', 'b'] = true := by
  have hmatch : (compile complementPattern).toOption.map (·.isMatch ['a', '.', 'b']) =
      some true := by
    decide +kernel
  obtain ⟨r, hr, hmatch⟩ := Option.map_eq_some_iff.1 hmatch
  exact ⟨r, toOption_eq_some_iff.1 hr, hmatch⟩

/-- A complement in it takes the dot, so segments are not kept. -/
theorem keepsSegments_iff_complementPattern :
    ∃ r, Spells false complementPattern complementTree ∧ '{' ∉ complementPattern ∧
      (∀ cls ∈ complementTree.classes, '.' ∉ cls.2) ∧ compile complementPattern = .ok r ∧
      ((∀ n, r.isMatch n = true → n.count '.' = complementPattern.count '.') ↔
        (∃ n, r.isMatch n = true) → ∀ cls ∈ complementTree.classes, takesDot cls = false) := by
  obtain ⟨r, hr, -⟩ := exists_isMatch_complementPattern
  have hbrace : '{' ∉ complementPattern := by decide
  have hdot : ∀ cls ∈ complementTree.classes, '.' ∉ cls.2 := by decide
  exact ⟨r, spells_complementTree, hbrace, hdot, hr,
    keepsSegments_iff spells_complementTree hbrace hdot hr⟩

/-- So it is not the case that every pattern without choices keeps to its segments. -/
theorem not_keepsSegments :
    ¬∀ (p : List Char) (t : Tree) (r : Regex), Spells false p t → '{' ∉ p →
      (∀ cls ∈ t.classes, '.' ∉ cls.2) → compile p = .ok r →
      ∀ n, r.isMatch n = true → n.count '.' = p.count '.' := by
  intro h
  obtain ⟨r, hr, hmatch⟩ := exists_isMatch_complementPattern
  have hcount := h complementPattern complementTree r spells_complementTree (by decide)
    (by decide) hr ['a', '.', 'b'] hmatch
  exact absurd hcount (by decide)

end SeriesRender.Glob
