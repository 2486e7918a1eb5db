import SeriesRender.Proofs.Glob.Grammar

/-!
# Reading a translated pattern

The reader of regular expressions makes an item of each piece of a path pattern (`Piece.item?`,
`Tree.items?`, `Options.body?`), if the classes in it are any, and `read_spells` says that it goes
on with what follows. What the items match is the language of the pattern (`matching_of_items?`), so
the compiled pattern, which is anchored at both ends, matches the texts of the language and nothing
else (`isMatch_iff`).

What follows a piece never reaches back into it : it closes no class, and does not start with a
character that would join the piece in an operator, a range or a lazy repetition (`Follows`).
-/

namespace SeriesRender.Glob

open Regex

/-! ## What follows a piece -/

/-- What may follow a piece in a regular expression. -/
structure Follows (X : List Char) : Prop where
  closesNoClass : ClosesNoClass X
  head : ∃ c cs, X = c :: cs ∧ c ∉ ['-', '&', '~', '?']

variable {c d : Char} {X Z : List Char}

theorem standsAlone_cons (hd : d ≠ '-') : StandsAlone (d :: Z) :=
  ⟨d, Z, rfl, fun h => absurd h hd⟩

theorem closesNoClass_cons (hc : c ∉ ['[', ']', '\\']) (hd : d ∉ ['-', '&', '~'])
    (hZ : ClosesNoClass (d :: Z)) : ClosesNoClass (c :: d :: Z) := by
  intro o around items
  simp only [List.mem_cons, List.not_mem_nil, or_false, not_or] at hc
  have hmember : member c = [c] := if_neg fun h => h.elim hc.2.2 hc.1
  have hop : c ∈ ['&', '-', '~'] → (d :: Z).head? ≠ some c := by
    intro hmem heq
    obtain rfl := Option.some.inj heq
    simp only [List.mem_cons, List.not_mem_nil, or_false] at hmem hd
    tauto
  have halone : StandsAlone (d :: Z) := standsAlone_cons fun h => hd (by simp [h])
  have hread : itemsFrom o around items (member c ++ d :: Z) = _ :=
    itemsFrom_alone hc.2.1 hop halone
  rw [hmember] at hread
  exact hread.trans (hZ o around _)

/-- A backslash in front of a mark stands for the mark. -/
theorem scanEscape_of_isMeta (hc : isMeta c = true) :
    ∃ h, scanEscape {} (c :: X) = some ⟨.literal c, X, h⟩ := by
  simp only [isMeta, List.mem_cons, List.not_mem_nil, or_false, decide_eq_true_eq] at hc
  rcases hc with rfl | rfl | rfl | rfl | rfl | rfl | rfl | rfl | rfl | rfl | rfl | rfl | rfl |
    rfl | rfl | rfl | rfl | rfl <;> exact ⟨Nat.lt_succ_self _, rfl⟩

theorem closesNoClass_escaped (hc : isMeta c = true) (hd : d ≠ '-')
    (hZ : ClosesNoClass (d :: Z)) : ClosesNoClass ('\\' :: c :: d :: Z) := by
  intro o around items
  obtain ⟨hlt, hescape⟩ := scanEscape_of_isMeta (X := d :: Z) hc
  have hmember : scanMember {} ('\\' :: c :: d :: Z) =
      some ⟨.literal c, d :: Z, Nat.lt_succ_of_lt hlt⟩ := by
    rw [scanMember.eq_2, hescape]
    rfl
  have hpiece : (scanClassPiece {} ('\\' :: c :: d :: Z)).map Scanned.out =
      some (.member (.single false c), d :: Z) := by
    have hdef : (scanClassPiece {} ('\\' :: c :: d :: Z)).map Scanned.out =
        ((scanRange {} ('\\' :: c :: d :: Z)).map Scanned.out).map fun p => (.member p.1, p.2) := by
      change ((scanRange {} ('\\' :: c :: d :: Z)).map (·.map ClassPiece.member)).map _ = _
      cases scanRange {} ('\\' :: c :: d :: Z) <;> rfl
    rw [hdef, scanRange_alone hmember (standsAlone_cons hd)]
    rfl
  rw [itemsFrom_eq, hpiece]
  exact hZ o around _

theorem follows_dollar : Follows ['$'] := by
  refine ⟨fun o around items => ?_, '$', [], rfl, by decide⟩
  rw [itemsFrom_eq]
  rfl

theorem follows_cons (hX : Follows X) (hc : c ∈ [')', '|', '*']) : Follows (c :: X) := by
  obtain ⟨hclose, d, Z, rfl, hd⟩ := hX
  simp only [List.mem_cons, List.not_mem_nil, or_false, not_or] at hc hd
  refine ⟨closesNoClass_cons ?_ ?_ hclose, c, d :: Z, rfl, ?_⟩
  · rcases hc with rfl | rfl | rfl <;> decide
  · simp [hd]
  · rcases hc with rfl | rfl | rfl <;> decide

theorem follows_literal (hX : Follows X) (c : Char) : Follows (literal c ++ X) := by
  obtain ⟨hclose, d, Z, rfl, hd⟩ := hX
  simp only [List.mem_cons, List.not_mem_nil, or_false, not_or] at hd
  by_cases hc : isMeta c = true
  · rw [literal, if_pos hc]
    exact ⟨closesNoClass_escaped hc hd.1 hclose, '\\', c :: d :: Z, rfl, by decide⟩
  · rw [literal, if_neg hc]
    simp only [isMeta, List.mem_cons, List.not_mem_nil, or_false, decide_eq_true_eq, not_or] at hc
    refine ⟨closesNoClass_cons (by simp [hc]) (by simp [hd]) hclose, c, d :: Z, rfl, by simp [hc]⟩

theorem follows_class {negated : Bool} {body : List Char} (h : ']' ∉ body) (hX : ClosesNoClass X) :
    Follows ('[' :: (classText negated body ++ ']' :: X)) :=
  ⟨closesNoClass_class h hX, '[', _, rfl, by decide⟩

theorem follows_open (hX : Follows X) : Follows ('(' :: '?' :: ':' :: X) := by
  obtain ⟨hclose, d, Z, rfl, hd⟩ := hX
  simp only [List.mem_cons, List.not_mem_nil, or_false, not_or] at hd
  have hcolon : ClosesNoClass (':' :: d :: Z) :=
    closesNoClass_cons (by decide) (by simp [hd]) hclose
  have hquestion := closesNoClass_cons (c := '?') (by decide) (by decide) hcolon
  exact ⟨closesNoClass_cons (by decide) (by decide) hquestion, '(', _, rfl, by decide⟩

mutual

/-- A translated piece can follow another one. -/
theorem follows_spellsPiece {inside : Bool} {q : List Char} {p : Piece}
    (h : SpellsPiece inside q p) {X : List Char} (hX : Follows X) : Follows (p.regex ++ X) := by
  cases h with
  | char h => exact follows_literal hX _
  | one =>
    rw [regex_one_append]
    exact follows_class (by decide) hX.closesNoClass
  | run =>
    rw [regex_run_append]
    exact follows_class (by decide) (follows_cons hX (by decide)).closesNoClass
  | cls hclose hmark =>
    rw [regex_cls_append]
    exact follows_class hclose hX.closesNoClass
  | choice h =>
    rw [regex_choice_append]
    exact follows_open (follows_spellsOptions h (follows_cons hX (by decide)))

theorem follows_spells {inside : Bool} {q : List Char} {t : Tree} (h : Spells inside q t)
    {X : List Char} (hX : Follows X) : Follows (t.regex ++ X) := by
  cases h with
  | nil => exact hX
  | cons hp ht =>
    rw [Tree.regex, List.append_assoc]
    exact follows_spellsPiece hp (follows_spells ht hX)

theorem follows_spellsOptions {q : List Char} {o : Options} (h : SpellsOptions q o)
    {X : List Char} (hX : Follows X) : Follows (o.regex ++ X) := by
  cases h with
  | last h => exact follows_spells h hX
  | more ht ho =>
    rw [Options.regex, List.append_assoc]
    exact follows_spells ht (follows_cons (follows_spellsOptions ho hX) (by decide))

end

/-! ## Items -/

mutual

/-- The item that the reader makes of a piece, if its classes are any. -/
def Piece.item? : Piece → Option Item
  | .char c => some ⟨some (.set (.single false c)), 0⟩
  | .one => (classSet? true ['.']).map fun s => ⟨some (.set s), 2⟩
  | .run => (classSet? true ['.']).map fun s => ⟨some (.rep true 0 none (.set s)), 3⟩
  | .cls negated body => (classSet? negated body).map fun s => ⟨some (.set s), 2⟩
  | .choice o => (o.body? []).map fun b => ⟨some (b.item.pattern.getD .empty), b.item.depth + 1⟩

/-- The items of a pattern, last first. -/
def Tree.items? : Tree → Option (List Item)
  | .nil => some []
  | .cons p t => p.item?.bind fun i => t.items?.map (· ++ [i])

/-- The body of a group that holds the patterns of a choice, behind some alternatives. -/
def Options.body? (branches : List Item) : Options → Option Body
  | .last t => t.items?.map fun items => ⟨branches, items⟩
  | .more t o => t.items?.bind fun items => o.body? (branchOf items :: branches)

end

/-! ## Reading -/

/-- A literal is read as its character. -/
theorem scanPiece_literal (c : Char) (X : List Char) :
    (scanPiece {} (literal c ++ X)).map Scanned.out =
      some (.item (.set (.single false c)) 0, X) := by
  by_cases hc : isMeta c = true
  · obtain ⟨_, hescape⟩ := scanEscape_of_isMeta (X := X) hc
    rw [literal, if_pos hc]
    change ((scanEscape {} (c :: X)).map _).map Scanned.out = _
    rw [hescape]
    rfl
  · rw [literal, if_neg hc]
    simp only [isMeta, List.mem_cons, List.not_mem_nil, or_false, decide_eq_true_eq, not_or] at hc
    dsimp only [List.singleton_append, scanPiece]
    split <;> first | rfl | simp at hc

/-- A class is read as its set, if it has one. -/
theorem scanPiece_class {negated : Bool} {body : List Char} (h : ']' ∉ body)
    (hX : ClosesNoClass X) :
    (scanPiece {} ('[' :: (classText negated body ++ ']' :: X))).map Scanned.out =
      (classSet? negated body).map fun s => (.item (.set s) 2, X) := by
  have hdef : (scanPiece {} ('[' :: (classText negated body ++ ']' :: X))).map Scanned.out =
      ((scanClass {} (classText negated body ++ ']' :: X)).map Scanned.out).map
        fun p => (.item (.set p.1) 2, p.2) := by
    change ((scanClass {} (classText negated body ++ ']' :: X)).map _).map Scanned.out = _
    cases scanClass {} (classText negated body ++ ']' :: X) <;> rfl
  rw [hdef, scanClass_classText h hX, Option.map_map]
  rfl

/-- A literal is pushed as one character. -/
theorem read_literal {m : Machine} (hm : m.flags = {}) (c : Char) (X : List Char) :
    m.read (literal c ++ X) = (m.push (.set (.single false c)) 0).read X := by
  have hne : literal c ++ X ≠ [] := by
    unfold literal
    split <;> exact List.cons_ne_nil _ _
  rw [Machine.read_eq hm hne, scanPiece_literal]
  rfl

/-- A class is pushed as a set, if it has one. -/
theorem read_class {m : Machine} (hm : m.flags = {}) {negated : Bool} {body : List Char}
    (h : ']' ∉ body) (hX : ClosesNoClass X) :
    m.read ('[' :: (classText negated body ++ ']' :: X)) =
      (classSet? negated body).bind fun s => (m.push (.set s) 2).read X := by
  rw [Machine.read_eq hm (List.cons_ne_nil _ _), scanPiece_class h hX]
  cases classSet? negated body <;> rfl

/-- A star makes a repetition of what was pushed last. -/
theorem read_star {m : Machine} (hm : m.flags = {}) (p : Pattern) (depth : Nat) (hX : Follows X) :
    (m.push p depth).read ('*' :: X) = (m.push (.rep true 0 none p) (depth + 1)).read X := by
  obtain ⟨-, d, Z, rfl, hd⟩ := hX
  -- what follows is no question mark, so the repetition stays greedy
  have hlazy : splitLazy (d :: Z) = (false, d :: Z) :=
    splitLazy.eq_2 (d :: Z) fun cs h => hd (by simp [(List.cons.inj h).1])
  have hpiece : (scanPiece {} ('*' :: d :: Z)).map Scanned.out =
      some (.repetition 0 none false, d :: Z) := by
    change some (Piece.repetition 0 none (splitLazy (d :: Z)).1, (splitLazy (d :: Z)).2) = _
    rw [hlazy]
  have hgreedy : (false == m.flags.swapGreed) = true := by
    rw [hm]
    rfl
  have hstep : (m.push p depth).step (.repetition 0 none false) =
      some (m.push (.rep true 0 none p) (depth + 1)) :=
    congrArg (fun greedy => some (m.push (.rep greedy 0 none p) (depth + 1))) hgreedy
  rw [Machine.read_eq (m := m.push p depth) hm (List.cons_ne_nil _ _), hpiece, Option.bind_some,
    hstep]
  rfl

/-- A group is read as an item, once its body is. -/
theorem read_group {m : Machine} (hm : m.flags = {}) {o : Options} {X : List Char}
    (hbody : ∀ {m : Machine}, m.flags = {} → m.body.items = [] → m.read (o.regex ++ ')' :: X) =
      (o.body? m.body.branches).bind fun b => ({ m with body := b } : Machine).read (')' :: X)) :
    m.read ((Piece.choice o).regex ++ X) =
      (Piece.choice o).item?.bind fun i => (m.add [i]).read X := by
  have hopen : m.read ('(' :: '?' :: ':' :: (o.regex ++ ')' :: X)) =
      (m.enter none {}).read (o.regex ++ ')' :: X) := by
    rw [Machine.read_eq hm (List.cons_ne_nil _ _)]
    rfl
  rw [regex_choice_append, hopen, hbody rfl rfl, Piece.item?, Option.bind_map]
  refine congrArg _ (funext fun b => ?_)
  rw [Machine.read_eq rfl (List.cons_ne_nil _ _)]
  rfl

mutual

/-- Reading a translated piece adds its item, if it has one. -/
theorem read_spellsPiece {inside : Bool} {q : List Char} {p : Piece} (h : SpellsPiece inside q p)
    {m : Machine} (hm : m.flags = {}) {X : List Char} (hX : Follows X) :
    m.read (p.regex ++ X) = p.item?.bind fun i => (m.add [i]).read X := by
  cases h with
  | char h => exact read_literal hm _ X
  | one =>
    rw [regex_one_append, read_class hm (by decide) hX.closesNoClass, Piece.item?, Option.bind_map]
    rfl
  | run =>
    have hstar := (follows_cons hX (c := '*') (by decide)).closesNoClass
    rw [regex_run_append, read_class hm (by decide) hstar, Piece.item?, Option.bind_map]
    exact congrArg _ (funext fun s => read_star hm (.set s) 2 hX)
  | cls hclose hmark =>
    rw [regex_cls_append, read_class hm hclose hX.closesNoClass, Piece.item?, Option.bind_map]
    rfl
  | choice h =>
    exact read_group hm fun hm hitems =>
      read_spellsOptions h hm hitems (follows_cons hX (by decide))

/-- The reader makes of a pattern its items, and goes on with what follows. -/
theorem read_spells {inside : Bool} {q : List Char} {t : Tree} (h : Spells inside q t)
    {m : Machine} (hm : m.flags = {}) {X : List Char} (hX : Follows X) :
    m.read (t.regex ++ X) = t.items?.bind fun items => (m.add items).read X := by
  cases h with
  | nil => rfl
  | @cons _ q r p t hp ht =>
    rw [Tree.regex, List.append_assoc, read_spellsPiece hp hm (follows_spells ht hX), Tree.items?,
      Option.bind_assoc]
    refine congrArg _ (funext fun i => ?_)
    rw [read_spells (m := m.add [i]) ht hm hX, Option.bind_map]
    exact congrArg _ (funext fun items => congrArg (Machine.read · X) (m.add_add [i] items))

/-- Reading translated alternatives adds a branch for each but the last one. -/
theorem read_spellsOptions {q : List Char} {o : Options} (h : SpellsOptions q o) {m : Machine}
    (hm : m.flags = {}) (hitems : m.body.items = []) {X : List Char} (hX : Follows X) :
    m.read (o.regex ++ X) =
      (o.body? m.body.branches).bind fun b => ({ m with body := b } : Machine).read X := by
  have hadd : ∀ items, m.add items = { m with body := ⟨m.body.branches, items⟩ } := by
    intro items
    rw [Machine.add, hitems, List.append_nil]
  cases h with
  | last h =>
    rw [Options.regex, read_spells h hm hX, Options.body?, Option.bind_map]
    exact congrArg _ (funext fun items => congrArg (Machine.read · X) (hadd items))
  | @more q r t o ht ho =>
    have hbar := follows_cons (c := '|') (follows_spellsOptions ho hX) (by decide)
    rw [Options.regex, List.append_assoc, List.cons_append, read_spells ht hm hbar, Options.body?,
      Option.bind_assoc]
    refine congrArg _ (funext fun items => ?_)
    rw [hadd, Machine.read_eq (by exact hm) (List.cons_ne_nil _ _)]
    exact read_spellsOptions (m := { m with body := ⟨branchOf items :: m.body.branches, []⟩ }) ho hm
      rfl hX

end

/-! ## What the items match -/

theorem contains_single {c d : Char} : (CharClass.single false c).contains d = true ↔ d = c := by
  rw [CharClass.single, CharClass.contains, CharClass.inRange]
  simp only [Bool.false_and, Bool.or_false, Bool.and_eq_true, decide_eq_true_eq]
  constructor
  · rintro ⟨hle, hge⟩
    exact Char.le_antisymm hge hle
  · rintro rfl
    exact ⟨Char.le_refl d, Char.le_refl d⟩

/-- The class of `?` and `*` holds what is no dot. -/
theorem contains_of_one {s : CharClass} (h : classSet? true ['.'] = some s) (c : Char) :
    s.contains c = true ↔ c ≠ '.' := by
  obtain rfl : CharClass.compl (.single false '.') = s := Option.some.inj h
  rw [CharClass.contains, Bool.not_eq_true', ← Bool.not_eq_true, contains_single]

/-- A repetition of a set matches texts of characters in it. -/
theorem rep_set_iff {s : CharClass} {b : Option Char} {u r : List Char} :
    (Pattern.set s).matching.rep 0 none b u r ↔ ∀ c ∈ u, s.contains c = true := by
  induction u generalizing b with
  | nil => exact iff_of_true (Matching.rep_zero_none_iff.2 (Or.inl rfl)) (by simp)
  | cons c u ih =>
    rw [Matching.rep_zero_none_iff, List.forall_mem_cons]
    constructor
    · rintro (h | ⟨d, v, w, heq, ⟨e, hd, hs⟩, hrep⟩)
      · cases h
      · obtain ⟨rfl, rfl⟩ := List.cons.inj hd
        obtain ⟨rfl, rfl⟩ := List.cons.inj heq
        exact ⟨hs, ih.1 hrep⟩
    · rintro ⟨hs, hu⟩
      exact Or.inr ⟨c, [], u, rfl, ⟨c, rfl, hs⟩, ih.2 hu⟩

mutual

/-- The pattern of a piece matches the language of the piece, wherever it stands. -/
theorem matching_of_item? {p : Piece} {i : Item} (h : p.item? = some i) :
    ∃ r, i.pattern = some r ∧ r.matching = Matching.free p.language := by
  cases p with
  | char c =>
    obtain rfl := Option.some.inj h
    refine ⟨_, rfl, ?_⟩
    funext b u r
    refine propext ⟨?_, fun hu => ⟨c, hu, contains_single.2 rfl⟩⟩
    rintro ⟨d, rfl, hd⟩
    rw [contains_single.1 hd]
    rfl
  | one =>
    rw [Piece.item?] at h
    obtain ⟨s, hs, rfl⟩ := Option.map_eq_some_iff.1 h
    refine ⟨_, rfl, ?_⟩
    funext b u r
    refine propext (exists_congr fun c => ?_)
    rw [contains_of_one hs, and_comm]
  | run =>
    rw [Piece.item?] at h
    obtain ⟨s, hs, rfl⟩ := Option.map_eq_some_iff.1 h
    refine ⟨_, rfl, ?_⟩
    funext b u r
    refine propext (rep_set_iff.trans ?_)
    simp only [contains_of_one hs]
    exact ⟨fun h hdot => h _ hdot rfl, fun h c hc heq => h (heq ▸ hc)⟩
  | cls negated body =>
    obtain ⟨s, hs, rfl⟩ := Option.map_eq_some_iff.1 h
    refine ⟨_, rfl, ?_⟩
    funext b u r
    refine propext (exists_congr fun c => ?_)
    simp [hs, and_comm]
  | choice o =>
    obtain ⟨b, hb, rfl⟩ := Option.map_eq_some_iff.1 h
    refine ⟨_, rfl, ?_⟩
    rw [matching_of_body? hb]
    funext b u r
    simp [anyOf, Matching.free, Piece.language]

theorem matching_of_items? {t : Tree} {items : List Item} (h : t.items? = some items) :
    (concat items).matching = Matching.free t.language := by
  cases t with
  | nil =>
    obtain rfl := Option.some.inj h
    rfl
  | cons p t =>
    rw [Tree.items?] at h
    obtain ⟨i, hi, h⟩ := Option.bind_eq_some_iff.1 h
    obtain ⟨items, hitems, rfl⟩ := Option.map_eq_some_iff.1 h
    obtain ⟨r, hr, hmatching⟩ := matching_of_item? hi
    have ht := matching_of_items? hitems
    rw [matching_concat] at ht ⊢
    have hlast : [i].filterMap (·.pattern) = [r] := by simp [hr]
    rw [List.filterMap_append, inTurn_append, ht, hlast, inTurn, inTurn, Matching.empty_seq,
      hmatching, Matching.seq_free]
    rfl

/-- The pattern of alternatives matches their languages, and what the branches before matched. -/
theorem matching_of_body? {o : Options} {branches : List Item} {b : Body}
    (h : o.body? branches = some b) : (b.item.pattern.getD .empty).matching =
      fun before u r => u ∈ o.language ∨ anyOf branches before u r := by
  cases o with
  | last t =>
    obtain ⟨items, hitems, rfl⟩ := Option.map_eq_some_iff.1 h
    rw [matching_item, matching_of_items? hitems]
    rfl
  | more t o =>
    rw [Options.body?] at h
    obtain ⟨items, hitems, h⟩ := Option.bind_eq_some_iff.1 h
    rw [matching_of_body? h]
    funext before u r
    rw [anyOf_branchOf, matching_of_items? hitems, ← or_assoc, or_comm (a := u ∈ o.language)]
    rfl

end

/-! ## The compiled pattern -/

/-- A pattern is translated to its tree between anchors. -/
theorem regexText_spells {p : List Char} {t : Tree} (h : Spells false p t) :
    regexText p = .ok ('^' :: (t.regex ++ ['$'])) := by
  have htext := regexTextFrom_spells h (d := 0) rfl []
  rw [List.append_nil] at htext
  rw [regexText, htext]
  exact congrArg (fun body => Except.ok ('^' :: (body ++ ['$']))) (List.append_nil t.regex)

/-- The reader at the end of a pattern : the items of the pattern stand between two anchors. -/
def anchored (items : List Item) : Machine :=
  { Machine.start with
    body := ⟨[], ⟨some (.look .textEnd), 0⟩ :: (items ++ [⟨some (.look .textStart), 0⟩])⟩ }

/-- The translation is read as the items of the tree between anchors, if these exist. -/
theorem read_anchored {p : List Char} {t : Tree} (h : Spells false p t) :
    Machine.start.read ('^' :: (t.regex ++ ['$'])) = t.items?.map anchored := by
  have hcaret : Machine.start.read ('^' :: (t.regex ++ ['$'])) =
      (Machine.start.push (.look .textStart) 0).read (t.regex ++ ['$']) := by
    rw [Machine.read_eq rfl (List.cons_ne_nil _ _)]
    rfl
  have hdollar : ∀ m : Machine, m.flags = {} → m.levels = [] →
      m.read ['$'] = some (m.push (.look .textEnd) 0) := by
    intro m hm hlevels
    rw [Machine.read_eq hm (List.cons_ne_nil _ _)]
    change (m.push (Flags.dollar {}) 0).read [] = _
    exact Machine.read_nil hlevels hm
  rw [hcaret, read_spells h rfl follows_dollar]
  cases t.items? with
  | none => rfl
  | some items => exact hdollar ((Machine.start.push (.look .textStart) 0).add items) rfl rfl

/-- Between anchors a pattern matches only as a whole. -/
theorem matching_anchored {t : Tree} {items : List Item} (h : t.items? = some items) :
    (anchored items).pattern.matching =
      ((Pattern.look .textStart).matching.seq (Matching.free t.language)).seq
        (Pattern.look .textEnd).matching := by
  have hitems := matching_of_items? h
  rw [matching_concat] at hitems
  have hpattern : (anchored items).pattern =
      concat (⟨some (.look .textEnd), 0⟩ :: (items ++ [⟨some (.look .textStart), 0⟩])) := rfl
  have hpatterns : (⟨some (.look .textEnd), 0⟩ :: (items ++ [⟨some (.look .textStart), 0⟩]) :
        List Item).filterMap (·.pattern) =
      .look .textEnd :: (items.filterMap (·.pattern) ++ [.look .textStart]) := by
    simp
  rw [hpattern, matching_concat, hpatterns, inTurn, inTurn_append, hitems, inTurn, inTurn,
    Matching.empty_seq]

/-- A pattern is compiled if each piece of its tree has a set and the whole is not too large. -/
theorem compile_eq_ok_iff {p : List Char} {t : Tree} (h : Spells false p t) {r : Regex} :
    compile p = .ok r ↔ ∃ items, t.items? = some items ∧ (anchored items).Fits ∧
      r = ⟨(anchored items).pattern, []⟩ := by
  rw [compile, regexText_spells h]
  refine mapError_eq_ok_iff.trans (ofText_eq_ok_iff.trans ?_)
  rw [read_anchored h]
  constructor
  · rintro ⟨m, hm, hfits, rfl⟩
    obtain ⟨items, hitems, rfl⟩ := Option.map_eq_some_iff.1 hm
    exact ⟨items, hitems, hfits, rfl⟩
  · rintro ⟨items, hitems, hfits, rfl⟩
    exact ⟨anchored items, Option.map_eq_some_iff.2 ⟨items, hitems, rfl⟩, hfits, rfl⟩

/-- A compiled pattern matches the texts of the language of its tree. -/
theorem isMatch_iff {p : List Char} {t : Tree} (h : Spells false p t) {r : Regex}
    (hr : compile p = .ok r) (n : List Char) : r.isMatch n = true ↔ n ∈ t.language := by
  obtain ⟨items, hitems, -, rfl⟩ := (compile_eq_ok_iff h).1 hr
  refine Pattern.isMatch_iff.trans ?_
  rw [matching_anchored hitems]
  constructor
  · rintro ⟨before, _, after, rfl, _, _, rfl, ⟨_, u, rfl, ⟨rfl, hstart⟩, hu⟩, rfl, hend⟩
    obtain rfl := lastOf_eq_none_iff.1 (Option.isNone_iff_eq_none.1 hstart)
    obtain rfl := List.head?_eq_none_iff.1 (Option.isNone_iff_eq_none.1 hend)
    have hu : u ∈ t.language := hu
    simpa using hu
  · intro hn
    exact ⟨[], n, [], by simp, n, [], by simp, ⟨[], n, rfl, ⟨rfl, rfl⟩, hn⟩, rfl, rfl⟩

end SeriesRender.Glob
