import SeriesRender.Proofs.Glob.Grammar
import SeriesRender.Proofs.Target.Calls
import SeriesRender.Proofs.Target.Occurrence
import SeriesRender.Proofs.Target.RoundTrip
import SeriesRender.Store.Error

/-!
# Patterns that stand in targets

The parser of targets and the matcher have different ideas of brackets. For the parser they are
nested, each closed by its own kind. For the matcher a class ends at the first closing bracket and
has no choices in it, so that a choice may end inside brackets and a class inside braces. What the
matcher has open at the end of a pattern decides whether it can read it
(`regexTextFrom_eq_error_iff`), and a pattern in which brackets are nested leaves nothing open
(`OpenBrackets.within_foldl_after`). So the matcher reads whatever the parser accepts, and only the
expression that it makes of it may still be rejected (`matcher_of_parse`).
-/

namespace SeriesRender

open Target (Balanced Pairs)

namespace Glob

/-! ## Open brackets -/

/-- What the translation keeps of the brackets that it has read : whether a class is open, and how
many choices are. -/
structure OpenBrackets where
  inClass : Bool
  depth : Nat

namespace OpenBrackets

/-- A class is closed by the first closing bracket, and has no choices in it. -/
def after (s : OpenBrackets) (c : Char) : OpenBrackets :=
  if s.inClass then { s with inClass := decide (c ≠ ']') }
  else if c = '[' then { s with inClass := true }
  else { s with depth := depthAfter s.depth c }

/-- Why a pattern is rejected that ends here. -/
def fault? : OpenBrackets → Option GlobError
  | ⟨true, _⟩ => some .unterminatedClass
  | ⟨false, 0⟩ => none
  | ⟨false, _ + 1⟩ => some .unterminatedChoice

/-- Nothing is open but what is open in `t`. -/
structure Within (s t : OpenBrackets) : Prop where
  inClass : s.inClass = true → t.inClass = true
  depth_le : s.depth ≤ t.depth

variable {s t : OpenBrackets} {c : Char}

/-- Nothing is missing at the end if no more is open than there. -/
theorem Within.fault?_eq_none (h : s.Within ⟨false, 0⟩) : s.fault? = none := by
  obtain ⟨b, d⟩ := s
  obtain rfl : b = false :=
    Bool.eq_false_iff.2 fun hb => absurd (h.inClass hb) Bool.false_ne_true
  obtain rfl : d = 0 := Nat.le_zero.1 h.depth_le
  rfl

/-- What is open stays within what is open further out. -/
theorem Within.trans {u : OpenBrackets} (h : s.Within t) (h' : t.Within u) : s.Within u :=
  ⟨h'.inClass ∘ h.inClass, h.depth_le.trans h'.depth_le⟩

/-- In a class only a closing bracket means anything. -/
theorem after_of_inClass (h : s.inClass = true) (hc : c ≠ ']') : s.after c = s := by
  obtain ⟨b, d⟩ := s
  obtain rfl : b = true := h
  simp [after, hc]

/-- Other characters than brackets and braces leave open what is open. -/
theorem after_of_not_mem (s : OpenBrackets) (h : c ∉ ['{', '}', '[', ']']) : s.after c = s := by
  simp only [List.mem_cons, List.not_mem_nil, or_false, not_or] at h
  obtain ⟨h1, h2, h3, h4⟩ := h
  obtain ⟨b, d⟩ := s
  cases b <;> simp [after, depthAfter, h1, h2, h3, h4]

theorem after_openBracket (s : OpenBrackets) : s.after '[' = ⟨true, s.depth⟩ := by
  obtain ⟨b, d⟩ := s
  cases b <;> rfl

theorem after_closeBracket (s : OpenBrackets) : s.after ']' = ⟨false, s.depth⟩ := by
  obtain ⟨b, d⟩ := s
  cases b <;> rfl

theorem after_openBrace (s : OpenBrackets) :
    s.after '{' = ⟨s.inClass, if s.inClass then s.depth else s.depth + 1⟩ := by
  obtain ⟨b, d⟩ := s
  cases b <;> rfl

theorem after_closeBrace (s : OpenBrackets) :
    s.after '}' = ⟨s.inClass, if s.inClass then s.depth else s.depth - 1⟩ := by
  obtain ⟨b, d⟩ := s
  cases b <;> rfl

/-- A pair of brackets leaves nothing open if what it encloses does not. -/
theorem Within.pair {o : Char} (hp : Pairs o c) (h : t.Within (s.after o)) :
    (t.after c).Within s := by
  obtain ⟨hclass, hdepth⟩ := h
  rcases hp with ⟨rfl, rfl⟩ | ⟨rfl, rfl⟩
  · rw [after_openBrace] at hclass hdepth
    rw [after_closeBrace]
    refine ⟨hclass, ?_⟩
    cases hs : s.inClass with
    | false =>
      -- no class can be open at the closing brace, so it closes a choice
      have ht : t.inClass = false := Bool.eq_false_iff.2 fun h => by simpa [hs] using hclass h
      simp only [hs, ht, Bool.false_eq_true, if_false] at hdepth ⊢
      omega
    | true =>
      -- the opening brace was in a class, but the closing one need not be
      simp only [hs, if_true] at hdepth
      dsimp only
      split <;> omega
  · rw [after_openBracket] at hdepth
    rw [after_closeBracket]
    exact ⟨fun h => absurd h Bool.false_ne_true, hdepth⟩

/-- Brackets that are nested properly leave nothing open. -/
theorem within_foldl_after {w : List Char} (h : Balanced w) (s : OpenBrackets) :
    (w.foldl after s).Within s := by
  induction h generalizing s with
  | nil => exact ⟨id, le_rfl⟩
  | plain hc _ ih =>
    rw [List.foldl_cons, after_of_not_mem s hc]
    exact ih s
  | pair hp _ _ ihinner ihrest =>
    rw [List.foldl_cons, List.foldl_append, List.foldl_cons]
    exact (ihrest _).trans (.pair hp (ihinner _))

end OpenBrackets

/-! ## Rejection -/

theorem before_eq_error_iff {a : List Char} {r : Except GlobError (List Char)} {e : GlobError} :
    before a r = .error e ↔ r = .error e :=
  map_eq_error_iff

/-- The brackets that are open at the end of a pattern decide whether it is rejected, and why. -/
theorem regexTextFrom_eq_error_iff {inClass : Bool} {d : Nat} {p : List Char} {e : GlobError} :
    regexTextFrom inClass d p = .error e ↔
      (p.foldl OpenBrackets.after ⟨inClass, d⟩).fault? = some e := by
  -- in each case the state behind what is read is the one that the rest is read in
  fun_induction regexTextFrom inClass d p with
  | case1 => simp [OpenBrackets.fault?]
  | case2 inClass hclass =>
    obtain rfl := Bool.eq_false_iff.2 hclass
    simp [OpenBrackets.fault?]
  | case3 inClass d hclass hd =>
    obtain rfl := Bool.eq_false_iff.2 hclass
    obtain ⟨d, rfl⟩ := Nat.exists_eq_add_one_of_ne_zero hd
    simp [OpenBrackets.fault?]
  | case4 d cs ih => exact before_eq_error_iff.trans ih
  | case5 d c cs hc ih =>
    rw [before_eq_error_iff, ih, List.foldl_cons, OpenBrackets.after_of_inClass rfl hc]
  | case6 inClass d cs hclass ih | case7 inClass d cs hclass _ ih
  | case8 inClass d hclass cs _ _ ih | case9 inClass d hclass cs _ _ _ ih
  | case10 inClass d cs hclass _ _ _ ih =>
    obtain rfl := Bool.eq_false_iff.2 hclass
    exact before_eq_error_iff.trans ih
  | case11 inClass d c cs hclass _ _ _ _ hc ih | case12 inClass d c cs hclass _ _ _ _ _ hc ih =>
    obtain rfl := Bool.eq_false_iff.2 hclass
    obtain ⟨rfl, -⟩ := hc
    exact before_eq_error_iff.trans ih
  | case13 inClass d c cs hclass _ _ hbracket hbrace hclose _ ih =>
    obtain rfl := Bool.eq_false_iff.2 hclass
    have hafter : OpenBrackets.after ⟨false, d⟩ c = ⟨false, d⟩ := by
      by_cases hc : c = '}'
      · -- no choice is open that this brace could close
        obtain rfl : d = 0 := by simpa [hc] using hclose
        simp [OpenBrackets.after, depthAfter, hc]
      · simp [OpenBrackets.after, depthAfter, hc, hbracket, hbrace]
    rw [before_eq_error_iff, ih, List.foldl_cons, hafter]

/-- A pattern in which brackets are nested properly is translated. -/
theorem exists_regexText_of_balanced {p : List Char} (h : Balanced p) :
    ∃ text, regexText p = .ok text := by
  cases hp : regexText p with
  | ok text => exact ⟨text, rfl⟩
  | error e =>
    have hfault := regexTextFrom_eq_error_iff.1 (map_eq_error_iff.1 hp)
    rw [(OpenBrackets.within_foldl_after h _).fault?_eq_none] at hfault
    cases hfault

/-- What has been translated is rejected for nothing but its translation. -/
theorem compile_eq_error_iff {p text : List Char} (h : regexText p = .ok text) {e : GlobError} :
    compile p = .error e ↔
      ∃ cause, Regex.ofText text = .error cause ∧ GlobError.regex cause = e := by
  rw [compile, h]
  exact mapError_eq_error_iff

end Glob

/-! ## Targets -/

namespace Target

mutual

/-- The patterns of a well-formed expression are words. -/
theorem isWord_of_mem_selectors {e : Expr} (he : e.WellFormed) :
    ∀ pattern ∈ e.selectors, IsWord pattern := by
  cases e with
  | selector pattern =>
    intro _ h
    rw [Expr.selectors, List.mem_singleton] at h
    exact h ▸ he.1
  | literal l => simp [Expr.selectors]
  | call name args => exact isWord_of_mem_listSelectors he.2

/-- The selectors of well-formed expressions are words. -/
theorem isWord_of_mem_listSelectors {es : List Expr} (hes : Expr.AllWellFormed es) :
    ∀ pattern ∈ Expr.listSelectors es, IsWord pattern := by
  cases es with
  | nil => simp [Expr.listSelectors]
  | cons e es =>
    rw [Expr.listSelectors, List.forall_mem_append]
    exact ⟨isWord_of_mem_selectors hes.1, isWord_of_mem_listSelectors hes.2⟩

end

end Target

open Glob Target

/-- Every pattern that the parser finds in a target has a translation. There is no matcher for it
just if the translation is no regular expression, and then for that reason. -/
theorem matcher_of_parse {limit : Nat} {target : String} {e : Expr}
    (h : parse limit target = .ok e) : ∀ pattern ∈ e.selectors,
      ∃ text, regexText pattern.toList = .ok text ∧
        Glob.compile pattern.toList ≠ .error .unterminatedClass ∧
        Glob.compile pattern.toList ≠ .error .unterminatedChoice ∧
        ∀ error, matcher pattern = .error error ↔ ∃ cause, Regex.ofText text = .error cause ∧
          error = .invalidPattern pattern cause.message := by
  intro pattern hpattern
  obtain ⟨-, hn⟩ := isWord_iff.1 (isWord_of_mem_selectors (wellFormed_of_parse h).1 _ hpattern)
  obtain ⟨text, htext⟩ := exists_regexText_of_balanced (balanced_of_nests hn)
  refine ⟨text, htext, fun h => ?_, fun h => ?_, fun error => ?_⟩
  · obtain ⟨cause, -, hcause⟩ := (compile_eq_error_iff htext).1 h
    cases hcause
  · obtain ⟨cause, -, hcause⟩ := (compile_eq_error_iff htext).1 h
    cases hcause
  · rw [matcher, mapError_eq_error_iff]
    simp only [compile_eq_error_iff htext]
    constructor
    · rintro ⟨_, ⟨cause, hcause, rfl⟩, rfl⟩
      exact ⟨cause, hcause, rfl⟩
    · rintro ⟨cause, hcause, rfl⟩
      exact ⟨_, ⟨cause, hcause, rfl⟩, rfl⟩

/-- A choice with brackets in it, which for the matcher ends between them. -/
def crossing : String := "{a[{[]}]}"

/-- The target can be read and the pattern compiled, though brackets and braces cross. -/
theorem matcher_of_parse_crossing :
    parse 1 ("sum(" ++ crossing ++ ")") = .ok (.call "sum" [.selector crossing]) ∧
      (regexText crossing.toList).toOption =
        some ("^(?:a[".toList ++ ['{', '\\', '[', ']', ')', '\\', ']', '\\', '}', '$']) ∧
      Glob.compile crossing.toList ≠ .error .unterminatedClass ∧
      Glob.compile crossing.toList ≠ .error .unterminatedChoice := by
  have hword : (Expr.selector crossing).WellFormed :=
    ⟨isWord_iff.2 ⟨by decide, by decide⟩, classifyWord_of_none (by decide) (by decide) (by decide)⟩
  have hparse : parse 1 ("sum(" ++ crossing ++ ")") = .ok (.call "sum" [.selector crossing]) := by
    refine Eq.trans (congrArg (parse 1) ?_)
      (parse_text_of_wellFormed (e := .call "sum" [.selector crossing]) ⟨rfl, hword, trivial⟩ ?_)
    · decide
    · decide
  obtain ⟨text, htext, hclass, hchoice, -⟩ :=
    matcher_of_parse hparse crossing (List.mem_singleton.2 rfl)
  exact ⟨hparse, by decide +kernel, hclass, hchoice⟩

end SeriesRender
