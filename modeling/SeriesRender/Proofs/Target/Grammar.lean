import SeriesRender.Proofs.Target.Lexeme
import SeriesRender.Target.Parser

/-!
# The grammar of targets

`Spells ss e` is the grammar : the symbols `ss`, without a position, spell the expression `e`. It
says nothing of nesting. `parse_eq_ok_iff` says that the parser accepts exactly the texts whose
symbols spell an expression of bounded depth, with this expression.

The parser is a machine with a stack of open calls. For soundness, `Reads` relates a state to the
symbols read so far, and `spells_of_run` carries it through a run. For completeness, `run_spells`
says that symbols which spell `e` take the machine from expecting an operand to having read `e`,
whatever calls are open and whatever follows.
-/

namespace SeriesRender.Target

/-! ## The grammar -/

mutual

/-- The symbols spell the expression. -/
inductive Spells : List Symbol → Expr → Prop
  | word (w : String) : Spells [.word w] (classifyWord w)
  | quoted (v : String) (q : Char) : Spells [.quoted v q] (.literal (.string v q))
  | call {name : String} {ss : List Symbol} {args : List Expr} :
      isIdentifier name.toList = true → SpellsAll ss args →
      Spells (.word name :: .openParen :: (ss ++ [.closeParen])) (.call name args)

/-- The symbols spell the expressions, with a comma between each two. -/
inductive SpellsAll : List Symbol → List Expr → Prop
  | nil : SpellsAll [] []
  | one {ss : List Symbol} {e : Expr} : Spells ss e → SpellsAll ss [e]
  | cons {ss ts : List Symbol} {e d : Expr} {es : List Expr} :
      Spells ss e → SpellsAll ts (d :: es) → SpellsAll (ss ++ .comma :: ts) (e :: d :: es)

end

/-! ## Soundness -/

open Text

variable {limit stop : Nat}

/-- The symbols open the calls of the frames and spell their arguments so far, each with a comma
behind it. An argument of the innermost of `n` calls is at most `limit - n` deep. -/
inductive Opens (limit : Nat) : List Symbol → List Frame → Prop
  | nil : Opens limit [] []
  | call {name : String} {ss : List Symbol} {frames : List Frame} :
      isIdentifier name.toList = true → frames.length < limit → Opens limit ss frames →
      Opens limit (ss ++ [.word name, .openParen]) (⟨name, []⟩ :: frames)
  | arg {name : String} {args : List Expr} {ss ts : List Symbol} {e : Expr}
      {frames : List Frame} :
      Opens limit ss (⟨name, args⟩ :: frames) → Spells ts e →
      e.depth + (frames.length + 1) ≤ limit →
      Opens limit (ss ++ ts ++ [.comma]) (⟨name, e :: args⟩ :: frames)

/-- The symbols lead to the state. -/
inductive Reads (limit : Nat) : List Symbol → State → Prop
  | operand {afterComma : Bool} {ss : List Symbol} {frames : List Frame} :
      Opens limit ss frames → (∀ f ∈ frames.head?, afterComma = false → f.args = []) →
      Reads limit ss (.operand afterComma frames)
  | operator {ss ts : List Symbol} {e : Expr} {frames : List Frame} :
      Opens limit ss frames → Spells ts e → e.depth + frames.length ≤ limit →
      Reads limit (ss ++ ts) (.operator e frames)

/-- A list of trees is as deep as its deepest one. -/
theorem listDepth_le_iff {n : Nat} : ∀ {es : List Expr},
    Expr.listDepth es ≤ n ↔ ∀ e ∈ es, e.depth ≤ n
  | [] => by simp [Expr.listDepth]
  | e :: es => by
    rw [Expr.listDepth, Nat.max_le, listDepth_le_iff, List.forall_mem_cons]

/-- No more calls are open than the limit allows. -/
theorem Opens.length_le {ss : List Symbol} {frames : List Frame} (h : Opens limit ss frames) :
    frames.length ≤ limit := by
  induction h with
  | nil => exact Nat.zero_le _
  | call _ hlen _ _ => exact hlen
  | arg _ _ _ ih => exact ih

/-- What a word alone can spell. -/
theorem classifyWord_cases (w : String) :
    (∃ b, classifyWord w = .literal (.boolean b)) ∨
      (∃ x, classifyWord w = .literal (.number x w)) ∨ classifyWord w = .selector w := by
  unfold classifyWord
  split
  · exact Or.inl ⟨true, rfl⟩
  · split
    · exact Or.inl ⟨false, rfl⟩
    · split
      · next x _ => exact Or.inr (Or.inl ⟨x, rfl⟩)
      · exact Or.inr (Or.inr rfl)

@[simp] theorem depth_classifyWord (w : String) : (classifyWord w).depth = 0 := by
  rcases classifyWord_cases w with ⟨b, h⟩ | ⟨x, h⟩ | h <;> rw [h, Expr.depth]

/-- What stands before the last argument of the innermost call : its name, and its arguments so
far as a beginning of an argument list. -/
theorem Opens.split {ss : List Symbol} {name : String} {args : List Expr} {frames : List Frame}
    (h : Opens limit ss (⟨name, args⟩ :: frames)) :
    ∃ so sa, ss = so ++ .word name :: .openParen :: sa ∧ Opens limit so frames ∧
      isIdentifier name.toList = true ∧ frames.length < limit ∧ (args = [] → sa = []) ∧
      (∀ a ∈ args, a.depth + (frames.length + 1) ≤ limit) ∧
      ∀ ts e es, SpellsAll ts (e :: es) → SpellsAll (sa ++ ts) (args.reverse ++ e :: es) := by
  induction args generalizing ss with
  | nil =>
    cases h with
    | call hid hlen ho =>
      exact ⟨_, [], rfl, ho, hid, hlen, fun _ => rfl, by simp, fun ts e es h => h⟩
  | cons a args ih =>
    cases h with
    | @arg _ _ ss ts _ _ ho hs hd =>
      obtain ⟨so, sa, rfl, hso, hid, hlen, -, hds, hall⟩ := ih ho
      refine ⟨so, sa ++ ts ++ [.comma], by simp, hso, hid, hlen, by simp,
        List.forall_mem_cons.2 ⟨hd, hds⟩, fun us e es hus => ?_⟩
      have := hall _ _ _ (.cons hs hus)
      simpa using this

/-- Closing the innermost call spells it. -/
theorem Opens.close {ss ts : List Symbol} {f : Frame} {es : List Expr} {frames : List Frame}
    (h : Opens limit ss (f :: frames)) (hs : SpellsAll ts es)
    (hes : es = [] → f.args = []) (hd : ∀ e ∈ es, e.depth + (frames.length + 1) ≤ limit) :
    Reads limit (ss ++ ts ++ [.closeParen])
      (.operator (.call f.name (f.args.reverse ++ es)) frames) := by
  obtain ⟨name, args⟩ := f
  obtain ⟨so, sa, rfl, hso, hid, hlen, hnil, hds, hall⟩ := h.split
  have hargs : SpellsAll (sa ++ ts) (args.reverse ++ es) := by
    cases es with
    | nil =>
      obtain rfl := hes rfl
      cases hs
      rw [hnil rfl]
      exact .nil
    | cons e es => exact hall _ _ _ hs
  have hdepth : (Expr.call name (args.reverse ++ es)).depth + frames.length ≤ limit := by
    have : Expr.listDepth (args.reverse ++ es) ≤ limit - (frames.length + 1) := by
      rw [listDepth_le_iff]
      intro e he
      rcases List.mem_append.1 he with h | h
      · have := hds e (List.mem_reverse.1 h)
        omega
      · have := hd e h
        omega
    rw [Expr.depth]
    omega
  have := Reads.operator hso (.call hid hargs) hdepth
  simpa using this

/-- A run that ends well has read symbols that spell its result. -/
theorem spells_of_run {st : State} {ts : List Token} {ss : List Symbol} {e : Expr}
    (h : run limit stop st ts = .ok e) (hst : Reads limit ss st) :
    Spells (ss ++ ts.map Token.symbol) e ∧ e.depth ≤ limit := by
  fun_induction run limit stop st ts generalizing ss with
  | case3 b frames w _ _ ts hid hlen ih =>
    cases hst with
    | operand ho _ =>
      have := ih h (.operand (.call hid hlen ho) (by simp))
      simpa using this
  | case6 b frames w _ ts _ ih =>
    cases hst with
    | operand ho _ =>
      have := ih h (.operator ho (.word w) (by simpa using ho.length_le))
      simpa using this
  | case7 b frames v q _ ts ih =>
    cases hst with
    | operand ho _ =>
      have := ih h (.operator ho (.quoted v q) (by simpa [Expr.depth] using ho.length_le))
      simpa using this
  | case10 f frames _ ts ih =>
    cases hst with
    | operand ho hargs =>
      have hclose := ho.close .nil (fun _ => hargs f (by simp) rfl) (by simp)
      simp only [List.append_nil] at hclose
      have := ih h hclose
      simpa using this
  | case13 d =>
    cases h
    cases hst with
    | operator ho hs hd =>
      cases ho
      simpa using ⟨hs, hd⟩
  | case17 d f frames _ ts ih =>
    cases hst with
    | operator ho hs hd =>
      have := ih h (.operand (.arg ho hs hd) (by simp))
      simpa using this
  | case18 d f frames _ ts ih =>
    cases hst with
    | operator ho hs hd =>
      have hclose := ho.close (.one hs) (by simp) (by simpa using hd)
      rw [← List.reverse_cons] at hclose
      have := ih h hclose
      simpa using this
  | _ => cases h

/-! ## Completeness -/

/-- Whether tokens leave the word before them an operand, and not the name of a call. -/
def EndsOperand (ts : List Token) : Prop :=
  ∀ t ∈ ts.head?, t.symbol ≠ .openParen

/-- A word becomes an operand where an operand can end. -/
theorem run_word {afterComma : Bool} {frames : List Frame} {w : String} {p : Nat}
    {ts : List Token} (h : EndsOperand ts) :
    run limit stop (.operand afterComma frames) (⟨.word w, p⟩ :: ts) =
      run limit stop (.operator (classifyWord w) frames) ts := by
  cases ts with
  | nil =>
    rw [run]
    simp
  | cons t ts =>
    obtain ⟨s, q⟩ := t
    rw [run]
    rintro q ts heq
    cases heq
    exact h _ rfl rfl

mutual

/-- What spells a tree is read as this tree, if the limit leaves room for its depth. -/
theorem run_spells {ss : List Symbol} {e : Expr} (h : Spells ss e) {afterComma : Bool}
    {frames : List Frame} (hd : e.depth + frames.length ≤ limit) {ts rest : List Token}
    (hts : ts.map Token.symbol = ss) (hrest : EndsOperand rest) :
    run limit stop (.operand afterComma frames) (ts ++ rest) =
      run limit stop (.operator e frames) rest := by
  cases h with
  | word w =>
    obtain ⟨⟨_, p⟩, rfl, rfl⟩ := List.map_eq_singleton_iff.1 hts
    exact run_word hrest
  | quoted v q =>
    obtain ⟨⟨_, p⟩, rfl, rfl⟩ := List.map_eq_singleton_iff.1 hts
    rw [List.singleton_append, run]
  | @call name ss args hid hall =>
    obtain ⟨⟨_, p⟩, _, rfl, rfl, h1⟩ := List.map_eq_cons_iff.1 hts
    obtain ⟨⟨_, q⟩, _, rfl, rfl, h2⟩ := List.map_eq_cons_iff.1 h1
    obtain ⟨us, vs, rfl, hus, hvs⟩ := List.map_eq_append_iff.1 h2
    obtain ⟨⟨_, r⟩, rfl, rfl⟩ := List.map_eq_singleton_iff.1 hvs
    rw [Expr.depth] at hd
    have hlen : frames.length < limit := by omega
    have hargs : ∀ e ∈ args, e.depth + (⟨name, []⟩ :: frames : List Frame).length ≤ limit := by
      intro e he
      have := listDepth_le_iff.1 (Nat.le_refl _) e he
      rw [List.length_cons]
      omega
    simp only [List.cons_append, List.append_assoc, List.nil_append]
    rw [run, if_pos hid, if_pos hlen]
    exact run_spellsAll hall (by simp) hargs hus

/-- What spells a list of arguments is read into the call that is open. -/
theorem run_spellsAll {ss : List Symbol} {es : List Expr} (h : SpellsAll ss es)
    {afterComma : Bool} {f : Frame} {frames : List Frame}
    (hes : es = [] → afterComma = false ∧ f.args = [])
    (hd : ∀ e ∈ es, e.depth + (f :: frames).length ≤ limit) {ts rest : List Token} {p : Nat}
    (hts : ts.map Token.symbol = ss) :
    run limit stop (.operand afterComma (f :: frames)) (ts ++ ⟨.closeParen, p⟩ :: rest) =
      run limit stop (.operator (.call f.name (f.args.reverse ++ es)) frames) rest := by
  cases h with
  | nil =>
    obtain rfl := List.map_eq_nil_iff.1 hts
    obtain ⟨rfl, hargs⟩ := hes rfl
    rw [List.nil_append, run, hargs]
    rfl
  | @one _ e h =>
    have hd := hd e (List.mem_singleton_self _)
    rw [run_spells h hd hts (by simp [EndsOperand]), run, List.reverse_cons]
  | @cons ss us e d es h hall =>
    obtain ⟨vs, _, rfl, hvs, h1⟩ := List.map_eq_append_iff.1 hts
    obtain ⟨⟨_, q⟩, xs, rfl, rfl, hxs⟩ := List.map_eq_cons_iff.1 h1
    rw [List.forall_mem_cons] at hd
    rw [List.append_assoc, run_spells h hd.1 hvs (by simp [EndsOperand]), List.cons_append, run,
      run_spellsAll (f := ⟨f.name, e :: f.args⟩) hall (by simp) hd.2 hxs]
    simp

end

/-! ## The parser -/

/-- A list of tokens is read as a tree just if it spells the tree, and the tree is not too deep. -/
theorem run_eq_ok_iff {ts : List Token} {e : Expr} :
    run limit stop (.operand false []) ts = .ok e ↔
      Spells (ts.map Token.symbol) e ∧ e.depth ≤ limit := by
  constructor
  · intro h
    have := spells_of_run h (.operand .nil (by simp))
    rwa [List.nil_append] at this
  · rintro ⟨hs, hd⟩
    have hrun : run limit stop (.operand false []) (ts ++ []) =
        run limit stop (.operator e []) [] :=
      run_spells hs hd rfl (by simp [EndsOperand])
    rw [List.append_nil] at hrun
    rw [hrun, run]

/-- Once its tokens are there, a target is parsed from them. -/
theorem parse_of_lex {target : String} {tokens : Tokens} (h : lex target = .ok tokens) :
    parse limit target = (tokens.parse limit).mapError fun e => ⟨target, e⟩ := by
  rw [parse, h]
  rfl

/-- The parser accepts a text exactly if its symbols spell an expression that is not too deep. -/
theorem parse_eq_ok_iff {target : String} {e : Expr} :
    parse limit target = .ok e ↔
      ∃ ts, Lexes 0 target.toList ts ∧ Spells (ts.map Token.symbol) e ∧ e.depth ≤ limit := by
  unfold parse lex
  rw [mapError_eq_ok_iff]
  refine bind_eq_ok_iff.trans ?_
  constructor
  · rintro ⟨tokens, hlex, hrun⟩
    obtain ⟨ts, hts, rfl⟩ := map_eq_ok_iff.1 hlex
    exact ⟨ts, lexFrom_eq_ok_iff.1 hts, run_eq_ok_iff.1 hrun⟩
  · rintro ⟨ts, hts, hspells⟩
    exact ⟨_, map_eq_ok_iff.2 ⟨ts, lexFrom_eq_ok_iff.2 hts, rfl⟩, run_eq_ok_iff.2 hspells⟩

end SeriesRender.Target
