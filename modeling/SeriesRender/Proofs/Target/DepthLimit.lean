import Mathlib.Order.Bounds.Basic
import SeriesRender.Proofs.Target.Derivation
import SeriesRender.Proofs.Target.Occurrence

/-!
# Where the nesting gets too deep

`Locates` is the grammar of targets with the calls of an expression where they stand : each with the
offset of its name and the number of calls around it (`Site`), from left to right. `HasCallAt` says
that a target has a call at an offset with so many calls around it.

`parse_limited` says what a limit on the nesting does to a target that can be read at all : a limit
that the expression respects changes nothing, and any other one is reported at the leftmost call
with exactly as many calls around it as the limit allows.

A run fails at the first site at the limit (`run_locates`), since everything to the left of it is
read as without a limit; sites are in the order of their offsets (`sublist_offsets`).
-/

namespace SeriesRender.Target

open Text

/-! ## Calls where they stand -/

/-- A call in a text : the offset of its name, and the number of calls around it. -/
structure Site where
  offset : Nat
  around : Nat

mutual

/-- The tokens spell the expression. `sites` are its calls, from left to right, if the expression
itself has `n` calls around it. -/
inductive Locates : Nat → List Token → Expr → List Site → Prop
  | word {n p : Nat} (w : String) : Locates n [⟨.word w, p⟩] (classifyWord w) []
  | quoted {n p : Nat} (v : String) (q : Char) :
      Locates n [⟨.quoted v q, p⟩] (.literal (.string v q)) []
  | call {n p q r : Nat} {name : String} {ts : List Token} {args : List Expr} {sites : List Site} :
      isIdentifier name.toList = true → LocatesAll (n + 1) ts args sites →
      Locates n (⟨.word name, p⟩ :: ⟨.openParen, q⟩ :: (ts ++ [⟨.closeParen, r⟩]))
        (.call name args) (⟨p, n⟩ :: sites)

/-- The same for expressions with a comma between each two. -/
inductive LocatesAll : Nat → List Token → List Expr → List Site → Prop
  | nil {n : Nat} : LocatesAll n [] [] []
  | one {n : Nat} {ts : List Token} {e : Expr} {sites : List Site} :
      Locates n ts e sites → LocatesAll n ts [e] sites
  | cons {n p : Nat} {ts us : List Token} {e d : Expr} {es : List Expr} {sites sites' : List Site} :
      Locates n ts e sites → LocatesAll n us (d :: es) sites' →
      LocatesAll n (ts ++ ⟨.comma, p⟩ :: us) (e :: d :: es) (sites ++ sites')

end

/-- The target spells the expression, and has a call with `n` calls around it whose name stands at
offset `p`. -/
def HasCallAt (target : String) (e : Expr) (n p : Nat) : Prop :=
  ∃ os sites, TokensOf target os ∧ Locates 0 (os.map Occurrence.token) e sites ∧ ⟨p, n⟩ ∈ sites

mutual

/-- Whatever spells a tree also locates its calls. -/
theorem exists_locates {ss : List Symbol} {e : Expr} (h : Spells ss e) (n : Nat)
    {ts : List Token} (hts : ts.map Token.symbol = ss) : ∃ sites, Locates n ts e sites := by
  cases h with
  | word w =>
    obtain ⟨⟨_, p⟩, rfl, rfl⟩ := List.map_eq_singleton_iff.1 hts
    exact ⟨_, .word _⟩
  | quoted v q =>
    obtain ⟨⟨_, p⟩, rfl, rfl⟩ := List.map_eq_singleton_iff.1 hts
    exact ⟨_, .quoted v q⟩
  | call hid hall =>
    obtain ⟨⟨_, p⟩, _, rfl, rfl, h1⟩ := List.map_eq_cons_iff.1 hts
    obtain ⟨⟨_, q⟩, _, rfl, rfl, h2⟩ := List.map_eq_cons_iff.1 h1
    obtain ⟨us, vs, rfl, hus, hvs⟩ := List.map_eq_append_iff.1 h2
    obtain ⟨⟨_, r⟩, rfl, rfl⟩ := List.map_eq_singleton_iff.1 hvs
    obtain ⟨sites, hsites⟩ := exists_locatesAll hall (n + 1) hus
    exact ⟨_, .call hid hsites⟩

theorem exists_locatesAll {ss : List Symbol} {es : List Expr} (h : SpellsAll ss es) (n : Nat)
    {ts : List Token} (hts : ts.map Token.symbol = ss) : ∃ sites, LocatesAll n ts es sites := by
  cases h with
  | nil =>
    obtain rfl := List.map_eq_nil_iff.1 hts
    exact ⟨_, .nil⟩
  | one h =>
    obtain ⟨sites, hsites⟩ := exists_locates h n hts
    exact ⟨_, .one hsites⟩
  | cons h hall =>
    obtain ⟨us, _, rfl, hus, h1⟩ := List.map_eq_append_iff.1 hts
    obtain ⟨⟨_, p⟩, vs, rfl, rfl, hvs⟩ := List.map_eq_cons_iff.1 h1
    obtain ⟨sites, hsites⟩ := exists_locates h n hus
    obtain ⟨sites', hsites'⟩ := exists_locatesAll hall n hvs
    exact ⟨_, .cons hsites hsites'⟩

end

mutual

/-- What locates the calls of a tree spells the tree. -/
theorem spells_of_locates {n : Nat} {ts : List Token} {e : Expr} {sites : List Site}
    (h : Locates n ts e sites) : Spells (ts.map Token.symbol) e := by
  cases h with
  | word w => exact .word w
  | quoted v q => exact .quoted v q
  | call hid hall =>
    have := Spells.call hid (spellsAll_of_locatesAll hall)
    simpa using this

theorem spellsAll_of_locatesAll {n : Nat} {ts : List Token} {es : List Expr} {sites : List Site}
    (h : LocatesAll n ts es sites) : SpellsAll (ts.map Token.symbol) es := by
  cases h with
  | nil => exact .nil
  | one h => exact .one (spells_of_locates h)
  | cons h hall =>
    have := SpellsAll.cons (spells_of_locates h) (spellsAll_of_locatesAll hall)
    simpa using this

end

mutual

/-- No call has more calls around it than the nesting of the expression allows. -/
theorem around_lt {n : Nat} {ts : List Token} {e : Expr} {sites : List Site}
    (h : Locates n ts e sites) : ∀ s ∈ sites, s.around < n + e.depth := by
  cases h with
  | word | quoted => simp
  | call _ hall =>
    have hargs := around_lt_of_all hall
    rw [Expr.depth]
    refine List.forall_mem_cons.2 ⟨by simp only; omega, fun s hs => ?_⟩
    have := hargs s hs
    omega

/-- No call of a list lies deeper than the list itself. -/
theorem around_lt_of_all {n : Nat} {ts : List Token} {es : List Expr} {sites : List Site}
    (h : LocatesAll n ts es sites) : ∀ s ∈ sites, s.around < n + Expr.listDepth es := by
  cases h with
  | nil => simp
  | one h =>
    intro s hs
    have := around_lt h s hs
    rw [Expr.listDepth, Expr.listDepth]
    omega
  | cons h hall =>
    intro s hs
    rw [Expr.listDepth]
    rcases List.mem_append.1 hs with hs | hs
    · have := around_lt h s hs
      omega
    · have := around_lt_of_all hall s hs
      omega

end

mutual

/-- Calls are in the order of their names in the text. -/
theorem sublist_offsets {n : Nat} {ts : List Token} {e : Expr} {sites : List Site}
    (h : Locates n ts e sites) : (sites.map Site.offset).Sublist (ts.map Token.position) := by
  cases h with
  | word | quoted => exact List.nil_sublist _
  | call _ hall =>
    have hargs := sublist_offsets_of_all hall
    simp only [List.map_cons, List.map_append]
    exact ((hargs.trans (List.sublist_append_left ..)).cons _).cons_cons _

theorem sublist_offsets_of_all {n : Nat} {ts : List Token} {es : List Expr} {sites : List Site}
    (h : LocatesAll n ts es sites) :
    (sites.map Site.offset).Sublist (ts.map Token.position) := by
  cases h with
  | nil => exact List.nil_sublist _
  | one h => exact sublist_offsets h
  | cons h hall =>
    rw [List.map_append, List.map_append, List.map_cons]
    exact (sublist_offsets h).append ((sublist_offsets_of_all hall).cons _)

end

/-! ## The first call that is too deep -/

variable {limit stop : Nat}

mutual

/-- Tokens that spell an expression which is too deep fail at the first call that has as many calls
around it as the limit allows. -/
theorem run_locates {n : Nat} {ts : List Token} {e : Expr} {sites : List Site}
    (h : Locates n ts e sites) (afterComma : Bool) {frames : List Frame}
    (hframes : frames.length = n) (hn : n ≤ limit) (hdeep : limit < n + e.depth)
    (rest : List Token) :
    ∃ site, sites.find? (fun s => s.around = limit) = some site ∧
      run limit stop (.operand afterComma frames) (ts ++ rest) =
        .error ⟨site.offset, .tooDeep limit⟩ := by
  cases h with
  | word w =>
    rw [depth_classifyWord] at hdeep
    omega
  | quoted v q =>
    rw [Expr.depth] at hdeep
    omega
  | @call _ p _ _ name ts args sites hid hall =>
    simp only [List.cons_append, List.append_assoc, List.nil_append]
    rw [run, if_pos hid]
    rw [Expr.depth] at hdeep
    by_cases hlen : frames.length < limit
    · rw [if_pos hlen]
      obtain ⟨site, hsite, hrun⟩ := run_locatesAll hall false
        (f := ⟨name, []⟩) (congrArg (· + 1) hframes) (by omega) (by omega) _
      refine ⟨site, ?_, hrun⟩
      rw [List.find?_cons_of_neg (by simp only [decide_eq_true_eq]; omega)]
      exact hsite
    · rw [if_neg hlen]
      exact ⟨_, List.find?_cons_of_pos (by simp only [decide_eq_true_eq]; omega), rfl⟩

/-- In a list of arguments it is again the first call at the limit that is refused. -/
theorem run_locatesAll {n : Nat} {ts : List Token} {es : List Expr} {sites : List Site}
    (h : LocatesAll n ts es sites) (afterComma : Bool) {f : Frame} {frames : List Frame}
    (hframes : (f :: frames).length = n) (hn : n ≤ limit)
    (hdeep : limit < n + Expr.listDepth es) (rest : List Token) :
    ∃ site, sites.find? (fun s => s.around = limit) = some site ∧
      run limit stop (.operand afterComma (f :: frames)) (ts ++ rest) =
        .error ⟨site.offset, .tooDeep limit⟩ := by
  cases h with
  | nil =>
    rw [Expr.listDepth] at hdeep
    omega
  | one h =>
    rw [Expr.listDepth, Expr.listDepth] at hdeep
    exact run_locates h afterComma hframes hn (by omega) rest
  | @cons _ p ts us e d es sites sites' h hall =>
    rw [List.append_assoc, List.cons_append, List.find?_append]
    by_cases he : limit < n + e.depth
    · obtain ⟨site, hsite, hrun⟩ :=
        run_locates h afterComma hframes hn he (⟨.comma, p⟩ :: (us ++ rest))
      exact ⟨site, by rw [hsite, Option.some_or], hrun⟩
    · -- the first argument is read as without a limit, and none of its calls is too deep
      have hnone : sites.find? (fun s => s.around = limit) = none := by
        refine List.find?_eq_none.2 fun s hs => ?_
        have := around_lt h s hs
        simp only [decide_eq_true_eq]
        omega
      rw [Expr.listDepth] at hdeep
      rw [hnone, Option.none_or, run_spells (spells_of_locates h) (by omega) rfl
        (by simp [EndsOperand]), run]
      exact run_locatesAll hall true (f := ⟨f.name, e :: f.args⟩) hframes hn (by omega) rest

end

/-- The first site with so many calls around it is the leftmost one. -/
theorem offset_le_of_find? {sites : List Site} (h : (sites.map Site.offset).Pairwise (· < ·))
    {site : Site} (hsite : sites.find? (fun s => s.around = limit) = some site) :
    site.around = limit ∧ ∀ s ∈ sites, s.around = limit → site.offset ≤ s.offset := by
  obtain ⟨haround, before, after, rfl, hbefore⟩ := List.find?_eq_some_iff_append.1 hsite
  refine ⟨by simpa using haround, fun s hs hlimit => ?_⟩
  rcases List.mem_append.1 hs with hs | hs
  · exact absurd hlimit (by simpa using hbefore s hs)
  · rcases List.mem_cons.1 hs with rfl | hs
    · exact Nat.le_refl _
    · rw [List.map_append, List.map_cons, List.pairwise_append, List.pairwise_cons] at h
      exact Nat.le_of_lt (h.2.1.1 _ (List.mem_map_of_mem hs))

/-- A target that can be read at some limit is read the same at every limit that its nesting
respects. At any other one it fails, and the fault is at the name of the leftmost call with exactly
as many calls around it as the limit says. -/
theorem parse_limited {bound : Nat} {target : String} {e : Expr} (h : parse bound target = .ok e)
    (limit : Nat) :
    (e.depth ≤ limit → parse limit target = .ok e) ∧
    (limit < e.depth → ∃ error, parse limit target = .error error ∧ error.target = target ∧
      error.error.fault.message =
        "expression nested too deeply (limit " ++ toString limit ++ ")" ∧
      IsLeast {p | HasCallAt target e limit p} error.error.position) := by
  obtain ⟨ts, hlex, hspells, -⟩ := parse_eq_ok_iff.1 h
  refine ⟨fun hle => parse_eq_ok_iff.2 ⟨ts, hlex, hspells, hle⟩, fun hdeep => ?_⟩
  have htokens : lex target = .ok ⟨ts, byteLength target.toList⟩ :=
    map_eq_ok_iff.2 ⟨ts, lexFrom_eq_ok_iff.2 hlex, rfl⟩
  obtain ⟨os, hos⟩ := exists_tokensOf htokens
  obtain rfl : ts = os.map Occurrence.token :=
    congrArg Tokens.list (Except.ok.inj (htokens.symm.trans hos.lex_eq))
  have hfails : ∀ {sites}, Locates 0 (os.map Occurrence.token) e sites →
      ∃ site, sites.find? (fun s => s.around = limit) = some site ∧
        run limit (byteLength target.toList) (.operand false []) (os.map Occurrence.token) =
          .error ⟨site.offset, .tooDeep limit⟩ := by
    intro sites hsites
    rw [← List.append_nil (os.map Occurrence.token)]
    exact run_locates hsites false rfl (Nat.zero_le limit) (by omega) []
  have hsorted : ∀ {sites}, Locates 0 (os.map Occurrence.token) e sites →
      (sites.map Site.offset).Pairwise (· < ·) := fun hsites =>
    (pairwise_position_of_lexes hlex).sublist (sublist_offsets hsites)
  obtain ⟨sites, hsites⟩ := exists_locates hspells 0 rfl
  obtain ⟨site, hsite, hrun⟩ := hfails hsites
  refine ⟨⟨target, site.offset, .tooDeep limit⟩, ?_, rfl, rfl, ?_, ?_⟩
  · rw [parse_of_lex htokens, Tokens.parse, hrun]
    rfl
  · have haround := (offset_le_of_find? (hsorted hsites) hsite).1
    exact ⟨os, sites, hos, hsites, haround ▸ List.mem_of_find?_eq_some hsite⟩
  · rintro p ⟨ps, sites', hps, hsites', hp⟩
    obtain rfl := hos.unique hps
    -- the run is the same for whatever sites are read off the tokens
    obtain ⟨site', hsite', hrun'⟩ := hfails hsites'
    have hoffset : site.offset = site'.offset :=
      congrArg SyntaxError.position (Except.error.inj (hrun.symm.trans hrun'))
    have := (offset_le_of_find? (hsorted hsites') hsite').2 _ hp rfl
    simp only at this ⊢
    omega

/-- Three calls have two calls around them, and a letter of two bytes stands before the first. -/
theorem parse_limited_threeBranches :
    ∃ e, parse 4 "f('é',g(k()),h(m(n()),c()))" = .ok e ∧ 2 < e.depth ∧ e.depth ≤ 5 ∧
      parse 5 "f('é',g(k()),h(m(n()),c()))" = .ok e ∧
      parse 2 "f('é',g(k()),h(m(n()),c()))" =
        .error ⟨"f('é',g(k()),h(m(n()),c()))", ⟨9, .tooDeep 2⟩⟩ ∧
      IsLeast {p | HasCallAt "f('é',g(k()),h(m(n()),c()))" e 2 p} 9 := by
  have hlex : (lexFrom 0 "f('é',g(k()),h(m(n()),c()))".toList).toOption = some [⟨.word "f", 0⟩,
      ⟨.openParen, 1⟩, ⟨.quoted "é" '\'', 2⟩, ⟨.comma, 6⟩, ⟨.word "g", 7⟩, ⟨.openParen, 8⟩,
      ⟨.word "k", 9⟩, ⟨.openParen, 10⟩, ⟨.closeParen, 11⟩, ⟨.closeParen, 12⟩, ⟨.comma, 13⟩,
      ⟨.word "h", 14⟩, ⟨.openParen, 15⟩, ⟨.word "m", 16⟩, ⟨.openParen, 17⟩, ⟨.word "n", 18⟩,
      ⟨.openParen, 19⟩, ⟨.closeParen, 20⟩, ⟨.closeParen, 21⟩, ⟨.comma, 22⟩, ⟨.word "c", 23⟩,
      ⟨.openParen, 24⟩, ⟨.closeParen, 25⟩, ⟨.closeParen, 26⟩, ⟨.closeParen, 27⟩] := by
    decide +kernel
  have htokens : lex "f('é',g(k()),h(m(n()),c()))" = .ok _ :=
    map_eq_ok_iff.2 ⟨_, toOption_eq_some_iff.1 hlex, rfl⟩
  have hparse : parse 4 "f('é',g(k()),h(m(n()),c()))" = .ok (.call "f" [.literal (.string "é" '\''),
      .call "g" [.call "k" []], .call "h" [.call "m" [.call "n" []], .call "c" []]]) := by
    rw [parse_of_lex htokens]
    rfl
  have hfails : parse 2 "f('é',g(k()),h(m(n()),c()))" =
      .error ⟨"f('é',g(k()),h(m(n()),c()))", ⟨9, .tooDeep 2⟩⟩ := by
    rw [parse_of_lex htokens]
    rfl
  obtain ⟨error, herror, -, -, hleast⟩ := (parse_limited hparse 2).2 (by decide)
  obtain rfl := Except.error.inj (hfails.symm.trans herror)
  exact ⟨_, hparse, by decide, by decide, (parse_limited hparse 5).1 (by decide), hfails, hleast⟩

end SeriesRender.Target
