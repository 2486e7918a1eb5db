import SeriesRender.Proofs.Target.Calls
import SeriesRender.Proofs.Target.Grammar

/-!
# What the parser accepts

`parse_iff_spells` says that the parser accepts a text, with a limit on the nesting, exactly if the
lexer does, the symbols spell an expression (`Spells`), and no call in it stands inside as many
calls as the limit or more (`Expr.HasCallInside`). There is only one such expression, since symbols
spell no two (`Spells.unique`) : the grammar is not ambiguous.

`depth_le_iff` ties the nesting that the parser bounds to the calls around a call, and uniqueness
comes from the machine : symbols that spell an expression lead a run to it, and a run has one end.
-/

namespace SeriesRender.Target

/-! ## The calls around a call -/

/-- Somewhere in the expression a call stands inside exactly `n` other calls. -/
inductive Expr.HasCallInside : Nat → Expr → Prop
  | outermost (name : String) (args : List Expr) : HasCallInside 0 (.call name args)
  | inside {n : Nat} {name : String} {args : List Expr} {arg : Expr} :
      arg ∈ args → HasCallInside n arg → HasCallInside (n + 1) (.call name args)

/-- The depth of a list that has any is the depth of one of its trees. -/
theorem listDepth_eq_zero_or (es : List Expr) :
    Expr.listDepth es = 0 ∨ ∃ e ∈ es, e.depth = Expr.listDepth es := by
  induction es with
  | nil => exact Or.inl rfl
  | cons e es ih =>
    have hcons : Expr.listDepth (e :: es) = max e.depth (Expr.listDepth es) := by
      rw [Expr.listDepth]
    rcases Nat.le_total (Expr.listDepth es) e.depth with hle | hle
    · exact Or.inr ⟨e, List.mem_cons_self .., by omega⟩
    · rcases ih with h | ⟨d, hd, h⟩
      · exact Or.inl (by omega)
      · exact Or.inr ⟨d, List.mem_cons_of_mem e hd, by omega⟩

/-- A call inside `n` others makes a tree deeper than `n`. -/
theorem Expr.HasCallInside.lt_depth {n : Nat} {e : Expr} (h : e.HasCallInside n) : n < e.depth := by
  induction h with
  | outermost name args =>
    rw [Expr.depth]
    omega
  | @inside n name args arg harg _ ih =>
    have hle := listDepth_le_iff.1 (Nat.le_refl (Expr.listDepth args)) arg harg
    rw [Expr.depth]
    omega

/-- An expression with calls has one that its whole nesting encloses. -/
theorem Expr.hasCallInside_of_depth {e : Expr} : ∀ {n : Nat}, e.depth = n + 1 →
    e.HasCallInside n := by
  induction e using Expr.inductionOn with
  | selector pattern =>
    intro n h
    rw [Expr.depth] at h
    omega
  | literal l =>
    intro n h
    rw [Expr.depth] at h
    omega
  | call name args ih =>
    intro n h
    rw [Expr.depth] at h
    obtain rfl : n = Expr.listDepth args := by omega
    rcases listDepth_eq_zero_or args with hzero | ⟨arg, harg, hdepth⟩
    · rw [hzero]
      exact .outermost name args
    · cases hn : Expr.listDepth args with
      | zero => exact .outermost name args
      | succ m => exact .inside harg (ih arg harg (hdepth.trans hn))

/-- An expression is no deeper than a limit if every call has fewer calls around it. -/
theorem depth_le_iff {e : Expr} {limit : Nat} :
    e.depth ≤ limit ↔ ∀ n, e.HasCallInside n → n < limit := by
  constructor
  · intro h n hn
    have := hn.lt_depth
    omega
  · intro h
    cases hd : e.depth with
    | zero => omega
    | succ n => exact h n (Expr.hasCallInside_of_depth hd)

/-! ## One expression for each text -/

/-- Symbols spell one expression at most. -/
theorem Spells.unique {ss : List Symbol} {e d : Expr} (he : Spells ss e) (hd : Spells ss d) :
    e = d := by
  -- tokens with these symbols, whatever their offsets, and a limit that both expressions respect
  let ts : List Token := ss.map (⟨·, 0⟩)
  have hts : ts.map Token.symbol = ss := by simp [ts, Function.comp_def]
  have hrun : ∀ {x : Expr}, Spells ss x → x.depth ≤ max e.depth d.depth →
      run (max e.depth d.depth) 0 (.operand false []) ts = .ok x := by
    intro x hx hle
    exact run_eq_ok_iff.2 ⟨hts.symm ▸ hx, hle⟩
  exact Except.ok.inj ((hrun he (by omega)).symm.trans (hrun hd (by omega)))

/-- The parser accepts a text with an expression exactly if the lexer succeeds, the symbols spell
the expression, and every call in it has fewer calls around it than the limit says. No symbols
spell two expressions. -/
theorem parse_iff_spells (limit : Nat) (target : String) :
    (∀ e, parse limit target = .ok e ↔
      ∃ tokens, lex target = .ok tokens ∧ Spells (tokens.list.map Token.symbol) e ∧
        ∀ n, e.HasCallInside n → n < limit) ∧
    ∀ ss e d, Spells ss e → Spells ss d → e = d := by
  refine ⟨fun e => ?_, fun ss e d he hd => he.unique hd⟩
  have hlex : ∀ tokens, lex target = .ok tokens ↔
      ∃ ts, Lexes 0 target.toList ts ∧ ⟨ts, Text.byteLength target.toList⟩ = tokens := by
    intro tokens
    rw [lex, map_eq_ok_iff]
    simp only [lexFrom_eq_ok_iff]
  rw [parse_eq_ok_iff]
  constructor
  · rintro ⟨ts, hts, hspells, hd⟩
    exact ⟨_, (hlex _).2 ⟨ts, hts, rfl⟩, hspells, depth_le_iff.1 hd⟩
  · rintro ⟨tokens, htokens, hspells, hd⟩
    obtain ⟨ts, hts, rfl⟩ := (hlex tokens).1 htokens
    exact ⟨ts, hts, hspells, depth_le_iff.2 hd⟩

end SeriesRender.Target
