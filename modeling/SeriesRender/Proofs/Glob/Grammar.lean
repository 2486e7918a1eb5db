import Mathlib.Computability.Language
import SeriesRender.Proofs.Basic
import SeriesRender.Proofs.Glob.Bracket

/-!
# The grammar of path patterns

A path pattern is a list of pieces, and a choice is a piece that holds patterns again (`Tree`).
`Spells` says how a tree is written, `Tree.language` which paths it means. Between braces a comma
and a closing brace are no characters of their own, outside they are.

The translation into a regular expression keeps no tree, only a count of the choices that are open.
`regexTextFrom_spells` says what it writes for a tree, `exists_spells` that whatever it accepts is
spelled by a tree, and `exists_regexTextFrom_iff` that without classes it accepts exactly what
closes every opening brace.
-/

namespace SeriesRender.Glob

/-! ## Trees -/

mutual

/-- What a pattern is made of. -/
inductive Piece
  | char (c : Char)
  | one
  | run
  | cls (negated : Bool) (body : List Char)
  | choice (options : Options)

/-- A pattern : pieces, one after the other. -/
inductive Tree
  | nil
  | cons (p : Piece) (t : Tree)

/-- The patterns between the braces of a choice. -/
inductive Options
  | last (t : Tree)
  | more (t : Tree) (o : Options)

end

mutual

/-- The texts that a piece means. -/
def Piece.language : Piece → Language Char
  | .char c => {[c]}
  | .one => {u | ∃ c, c ≠ '.' ∧ u = [c]}
  | .run => {u | '.' ∉ u}
  | .cls negated body => {u | ∃ c, (∃ s ∈ classSet? negated body, s.contains c = true) ∧ u = [c]}
  | .choice o => o.language

/-- The texts that a pattern means. -/
def Tree.language : Tree → Language Char
  | .nil => 1
  | .cons p t => p.language * t.language

/-- The names that one of several alternatives matches. -/
def Options.language : Options → Language Char
  | .last t => t.language
  | .more t o => t.language + o.language

end

/-! ## Spelling -/

/-- Whether a character stands for itself, `inside` a choice or not. -/
def IsPlain (inside : Bool) (c : Char) : Prop :=
  c ∉ ['*', '?', '[', '{'] ∧ (inside = true → c ≠ '}' ∧ c ≠ ',')

/-- A class with its brackets. -/
def classPattern (negated : Bool) (body : List Char) : List Char :=
  '[' :: ((if negated then ['!'] else []) ++ body ++ [']'])

mutual

/-- How a piece is spelled, `inside` a choice or not. -/
inductive SpellsPiece : Bool → List Char → Piece → Prop
  | char {inside : Bool} {c : Char} (h : IsPlain inside c) : SpellsPiece inside [c] (.char c)
  | one {inside : Bool} : SpellsPiece inside ['?'] .one
  | run {inside : Bool} : SpellsPiece inside ['*'] .run
  | cls {inside negated : Bool} {body : List Char} (hclose : ']' ∉ body)
      (hmark : negated = false → body.head? ≠ some '!') :
      SpellsPiece inside (classPattern negated body) (.cls negated body)
  | choice {inside : Bool} {q : List Char} {o : Options} (h : SpellsOptions q o) :
      SpellsPiece inside ('{' :: (q ++ ['}'])) (.choice o)

/-- How a pattern is spelled. -/
inductive Spells : Bool → List Char → Tree → Prop
  | nil {inside : Bool} : Spells inside [] .nil
  | cons {inside : Bool} {q r : List Char} {p : Piece} {t : Tree} (hp : SpellsPiece inside q p)
      (ht : Spells inside r t) : Spells inside (q ++ r) (.cons p t)

/-- How the patterns of a choice are spelled. -/
inductive SpellsOptions : List Char → Options → Prop
  | last {q : List Char} {t : Tree} (h : Spells true q t) : SpellsOptions q (.last t)
  | more {q r : List Char} {t : Tree} {o : Options} (ht : Spells true q t)
      (ho : SpellsOptions r o) : SpellsOptions (q ++ ',' :: r) (.more t o)

end

/-! ## Translation -/

mutual

/-- The regular expression for a piece. -/
def Piece.regex : Piece → List Char
  | .char c => literal c
  | .one => ['[', '^', '.', ']']
  | .run => ['[', '^', '.', ']', '*']
  | .cls negated body => '[' :: (classText negated body ++ [']'])
  | .choice o => '(' :: '?' :: ':' :: (o.regex ++ [')'])

/-- The regular expression for a pattern. -/
def Tree.regex : Tree → List Char
  | .nil => []
  | .cons p t => p.regex ++ t.regex

/-- The alternatives as they are written for the matcher, between bars. -/
def Options.regex : Options → List Char
  | .last t => t.regex
  | .more t o => t.regex ++ '|' :: o.regex

end

theorem regex_one_append (X : List Char) :
    Piece.one.regex ++ X = '[' :: (classText true ['.'] ++ ']' :: X) := rfl

theorem regex_run_append (X : List Char) :
    Piece.run.regex ++ X = '[' :: (classText true ['.'] ++ ']' :: '*' :: X) := rfl

theorem regex_cls_append (negated : Bool) (body X : List Char) :
    (Piece.cls negated body).regex ++ X = '[' :: (classText negated body ++ ']' :: X) := by
  simp [Piece.regex]

theorem regex_choice_append (o : Options) (X : List Char) :
    (Piece.choice o).regex ++ X = '(' :: '?' :: ':' :: (o.regex ++ ')' :: X) := by
  simp [Piece.regex]

theorem before_nil (r : Except GlobError (List Char)) : before [] r = r := by
  cases r <;> rfl

theorem before_before (a b : List Char) (r : Except GlobError (List Char)) :
    before a (before b r) = before (a ++ b) r := by
  cases r with
  | error e => rfl
  | ok cs => exact congrArg Except.ok (List.append_assoc a b cs).symm

theorem before_eq_ok_iff {a text : List Char} {r : Except GlobError (List Char)} :
    before a r = .ok text ↔ ∃ cs, r = .ok cs ∧ a ++ cs = text :=
  map_eq_ok_iff

/-- A character that stands for itself is written so. -/
theorem regexTextFrom_plain {c : Char} {d : Nat} (h : IsPlain (decide (0 < d)) c) (cs : List Char) :
    regexTextFrom false d (c :: cs) = before (literal c) (regexTextFrom false d cs) := by
  obtain ⟨hmark, hinside⟩ := h
  simp only [List.mem_cons, List.not_mem_nil, or_false, not_or] at hmark
  obtain ⟨hstar, hone, hclass, hchoice⟩ := hmark
  rw [regexTextFrom.eq_def]
  dsimp only
  rw [if_neg Bool.false_ne_true, if_neg hstar, if_neg hone, if_neg hclass, if_neg hchoice,
    if_neg fun h => (hinside (decide_eq_true h.2)).1 h.1,
    if_neg fun h => (hinside (decide_eq_true h.2)).2 h.1]

/-- A class is written up to its first closing bracket. -/
theorem regexTextFrom_body {body : List Char} (h : ']' ∉ body) (d : Nat) (cs : List Char) :
    regexTextFrom true d (body ++ ']' :: cs) =
      before (bodyText body ++ [']']) (regexTextFrom false d cs) := by
  induction body with
  | nil =>
    rw [List.nil_append, regexTextFrom.eq_def]
    rfl
  | cons c body ih =>
    rw [List.mem_cons, not_or] at h
    rw [List.cons_append, regexTextFrom.eq_def]
    dsimp only
    rw [if_pos rfl, if_neg (Ne.symm h.1), ih h.2, before_before, bodyText_cons, List.append_assoc]

/-- A class is translated as a whole, whatever the depth. -/
theorem regexTextFrom_class {negated : Bool} {body : List Char} (h : ']' ∉ body)
    (hmark : negated = false → body.head? ≠ some '!') (d : Nat) (cs : List Char) :
    regexTextFrom false d (classPattern negated body ++ cs) =
      before (Piece.cls negated body).regex (regexTextFrom false d cs) := by
  have hpattern : classPattern negated body ++ cs =
      '[' :: ((if negated then ['!'] else []) ++ (body ++ ']' :: cs)) := by
    simp [classPattern]
  have hopen : regexTextFrom false d (classPattern negated body ++ cs) =
      before ('[' :: if negated then ['^'] else []) (regexTextFrom true d (body ++ ']' :: cs)) := by
    rw [hpattern, regexTextFrom.eq_def]
    cases negated with
    | true => rfl
    | false =>
      dsimp only
      rw [if_neg Bool.false_ne_true, if_neg (by decide), if_neg (by decide), if_pos rfl]
      split
      · next heq =>
        cases body with
        | nil => cases heq
        | cons c body =>
          obtain ⟨rfl, -⟩ := List.cons.inj heq
          exact absurd rfl (hmark rfl)
      · rfl
  rw [hopen, regexTextFrom_body h, before_before, Piece.regex, classText]
  simp only [List.cons_append, List.append_assoc]

/-- A choice is open between its braces. -/
theorem regexTextFrom_open (d : Nat) (cs : List Char) : regexTextFrom false d ('{' :: cs) =
    before ['(', '?', ':'] (regexTextFrom false (d + 1) cs) := by
  rw [regexTextFrom.eq_def]
  rfl

/-- A closing brace within a choice ends a group. -/
theorem regexTextFrom_close (d : Nat) (cs : List Char) :
    regexTextFrom false (d + 1) ('}' :: cs) = before [')'] (regexTextFrom false d cs) := by
  rw [regexTextFrom.eq_def]
  rfl

/-- A comma within a choice separates alternatives. -/
theorem regexTextFrom_comma (d : Nat) (cs : List Char) :
    regexTextFrom false (d + 1) (',' :: cs) = before ['|'] (regexTextFrom false (d + 1) cs) := by
  rw [regexTextFrom.eq_def]
  rfl

mutual

/-- A piece is translated by itself, and the rest of the pattern after it. -/
theorem regexTextFrom_spellsPiece {inside : Bool} {q : List Char} {p : Piece}
    (h : SpellsPiece inside q p) {d : Nat} (hd : inside = decide (0 < d)) (cs : List Char) :
    regexTextFrom false d (q ++ cs) = before p.regex (regexTextFrom false d cs) := by
  cases h with
  | char h =>
    subst hd
    exact regexTextFrom_plain h cs
  | one =>
    rw [List.singleton_append, regexTextFrom.eq_def]
    rfl
  | run =>
    rw [List.singleton_append, regexTextFrom.eq_def]
    rfl
  | cls hclose hmark => exact regexTextFrom_class hclose hmark d cs
  | @choice _ q o h =>
    have htext : '{' :: (q ++ ['}']) ++ cs = '{' :: (q ++ '}' :: cs) := by simp
    rw [htext, regexTextFrom_open, regexTextFrom_spellsOptions h d cs, before_before, Piece.regex]
    rfl

/-- What is written for a pattern, `d` choices being open. -/
theorem regexTextFrom_spells {inside : Bool} {q : List Char} {t : Tree} (h : Spells inside q t)
    {d : Nat} (hd : inside = decide (0 < d)) (cs : List Char) :
    regexTextFrom false d (q ++ cs) = before t.regex (regexTextFrom false d cs) := by
  cases h with
  | nil => exact (before_nil _).symm
  | cons hp ht =>
    rw [List.append_assoc, regexTextFrom_spellsPiece hp hd, regexTextFrom_spells ht hd,
      before_before, Tree.regex]

theorem regexTextFrom_spellsOptions {q : List Char} {o : Options} (h : SpellsOptions q o) (d : Nat)
    (cs : List Char) : regexTextFrom false (d + 1) (q ++ '}' :: cs) =
      before (o.regex ++ [')']) (regexTextFrom false d cs) := by
  cases h with
  | last h =>
    rw [regexTextFrom_spells h (by simp), regexTextFrom_close, before_before, Options.regex]
  | more ht ho =>
    rw [List.append_assoc, List.cons_append, regexTextFrom_spells ht (by simp), regexTextFrom_comma,
      regexTextFrom_spellsOptions ho, before_before, before_before, Options.regex]
    simp only [List.append_assoc, List.cons_append, List.nil_append]

end

/-! ## Patterns that are accepted -/

/-- Whether a text completes `d` choices that are open, innermost first, and then spells a
pattern. -/
def Completes : Nat → List Char → Prop
  | 0, p => ∃ t, Spells false p t
  | d + 1, p => ∃ q o rest, p = q ++ '}' :: rest ∧ SpellsOptions q o ∧ Completes d rest

theorem SpellsOptions.exists_prepend {q r : List Char} {p : Piece} {o : Options}
    (hp : SpellsPiece true q p) (ho : SpellsOptions r o) : ∃ o, SpellsOptions (q ++ r) o := by
  cases ho with
  | @last r t ht => exact ⟨.last (.cons p t), .last (.cons hp ht)⟩
  | @more r s t o ht ho =>
    rw [← List.append_assoc]
    exact ⟨.more (.cons p t) o, .more (.cons hp ht) ho⟩

theorem Completes.prepend {d : Nat} {q cs : List Char} {p : Piece}
    (hp : SpellsPiece (decide (0 < d)) q p) (h : Completes d cs) : Completes d (q ++ cs) := by
  cases d with
  | zero =>
    obtain ⟨t, ht⟩ := h
    exact ⟨.cons p t, .cons hp ht⟩
  | succ d =>
    obtain ⟨r, o, rest, rfl, ho, hrest⟩ := h
    obtain ⟨o', ho'⟩ := SpellsOptions.exists_prepend (by simpa using hp) ho
    exact ⟨q ++ r, o', rest, (List.append_assoc ..).symm, ho', hrest⟩

/-- Whatever is translated closes its choices, and its class if one is open. -/
theorem completes_of_regexTextFrom {inClass : Bool} {d : Nat} {p text : List Char}
    (h : regexTextFrom inClass d p = .ok text) :
    if inClass then ∃ body rest, p = body ++ ']' :: rest ∧ ']' ∉ body ∧ Completes d rest
    else Completes d p := by
  -- each case puts a piece, or one of the braces and commas, in front of what the rest completes
  fun_induction regexTextFrom inClass d p generalizing text with
  | case1 | case3 => cases h
  | case2 inClass hclass =>
    rw [if_neg hclass]
    exact ⟨.nil, .nil⟩
  | case4 d cs ih =>
    obtain ⟨_, h, -⟩ := before_eq_ok_iff.1 h
    exact ⟨[], cs, rfl, List.not_mem_nil, ih h⟩
  | case5 d c cs hc ih =>
    obtain ⟨_, h, -⟩ := before_eq_ok_iff.1 h
    obtain ⟨body, rest, rfl, hbody, hrest⟩ := ih h
    refine ⟨c :: body, rest, rfl, ?_, hrest⟩
    rw [List.mem_cons, not_or]
    exact ⟨Ne.symm hc, hbody⟩
  | case6 inClass d cs hclass ih =>
    obtain ⟨_, h, -⟩ := before_eq_ok_iff.1 h
    rw [if_neg hclass]
    exact (ih h).prepend .run
  | case7 inClass d cs hclass _ ih =>
    obtain ⟨_, h, -⟩ := before_eq_ok_iff.1 h
    rw [if_neg hclass]
    exact (ih h).prepend .one
  | case8 inClass d hclass cs _ _ ih =>
    obtain ⟨_, h, -⟩ := before_eq_ok_iff.1 h
    obtain ⟨body, rest, rfl, hbody, hrest⟩ := ih h
    have hpiece : '[' :: '!' :: (body ++ ']' :: rest) = classPattern true body ++ rest := by
      simp [classPattern]
    rw [if_neg hclass, hpiece]
    exact hrest.prepend (.cls hbody fun h => absurd h (by decide))
  | case9 inClass d hclass cs hmark _ _ ih =>
    obtain ⟨_, h, -⟩ := before_eq_ok_iff.1 h
    obtain ⟨body, rest, rfl, hbody, hrest⟩ := ih h
    have hpiece : '[' :: (body ++ ']' :: rest) = classPattern false body ++ rest := by
      simp [classPattern]
    rw [if_neg hclass, hpiece]
    refine hrest.prepend (.cls hbody fun _ hhead => ?_)
    obtain ⟨cs, rfl⟩ := List.head?_eq_some_iff.1 hhead
    exact hmark _ rfl
  | case10 inClass d cs hclass _ _ _ ih =>
    obtain ⟨_, h, -⟩ := before_eq_ok_iff.1 h
    obtain ⟨q, o, rest, rfl, ho, hrest⟩ := ih h
    have hpiece : '{' :: (q ++ '}' :: rest) = '{' :: (q ++ ['}']) ++ rest := by simp
    rw [if_neg hclass, hpiece]
    exact hrest.prepend (.choice ho)
  | case11 inClass d c cs hclass _ _ _ _ hc ih =>
    obtain ⟨_, h, -⟩ := before_eq_ok_iff.1 h
    obtain ⟨rfl, hd⟩ := hc
    obtain ⟨d, rfl⟩ := Nat.exists_eq_add_one.2 hd
    rw [if_neg hclass]
    exact ⟨[], .last .nil, cs, rfl, .last .nil, ih h⟩
  | case12 inClass d c cs hclass _ _ _ _ _ hc ih =>
    obtain ⟨_, h, -⟩ := before_eq_ok_iff.1 h
    obtain ⟨rfl, hd⟩ := hc
    obtain ⟨d, rfl⟩ := Nat.exists_eq_add_one.2 hd
    obtain ⟨q, o, rest, rfl, ho, hrest⟩ := ih h
    rw [if_neg hclass]
    exact ⟨',' :: q, .more .nil o, rest, rfl, .more (q := []) .nil ho, hrest⟩
  | case13 inClass d c cs hclass hstar hone hbracket hbrace hclose hcomma ih =>
    obtain ⟨_, h, -⟩ := before_eq_ok_iff.1 h
    rw [if_neg hclass]
    refine (ih h).prepend (.char ⟨by simp [hstar, hone, hbracket, hbrace], fun hd => ?_⟩)
    exact ⟨fun hc => hclose ⟨hc, of_decide_eq_true hd⟩, fun hc => hcomma ⟨hc, of_decide_eq_true hd⟩⟩

/-- Whatever is translated is spelled by a tree. -/
theorem exists_spells {p text : List Char} (h : regexTextFrom false 0 p = .ok text) :
    ∃ t, Spells false p t :=
  completes_of_regexTextFrom h

/-! ## Opening braces that are never closed -/

/-- Some opening brace is never closed : behind it the braces do not balance before any closing
one. -/
def HasUnclosed (p : List Char) : Prop :=
  ∃ a b, p = a ++ '{' :: b ∧
    ∀ body rest, b = body ++ '}' :: rest → body.count '{' ≠ body.count '}'

/-- How many choices are open behind a character. -/
def depthAfter (d : Nat) (c : Char) : Nat :=
  if c = '{' then d + 1 else if c = '}' then d - 1 else d

/-- Whether a text closes `d` braces that are open. -/
def Closes : Nat → List Char → Prop
  | 0, _ => True
  | _ + 1, [] => False
  | d + 1, c :: cs => Closes (depthAfter (d + 1) c) cs

theorem closes_zero (p : List Char) : Closes 0 p := by
  cases p <;> trivial

/-- A character changes the depth by as much one level further in. -/
theorem depthAfter_succ (d : Nat) (c : Char) :
    depthAfter (d + 2) c = depthAfter (d + 1) c + 1 := by
  unfold depthAfter
  split_ifs <;> rfl

/-- What closes one level more closes all the others. -/
theorem Closes.of_succ {d : Nat} {p : List Char} (h : Closes (d + 1) p) : Closes d p := by
  induction p generalizing d with
  | nil => exact h.elim
  | cons c cs ih =>
    cases d with
    | zero => trivial
    | succ d =>
      rw [Closes, depthAfter_succ] at h
      exact ih h

theorem closes_one {d : Nat} {p : List Char} (h : Closes (d + 1) p) : Closes 1 p := by
  induction d with
  | zero => exact h
  | succ d ih => exact ih h.of_succ

/-- What follows a character closes what is open behind it : what was open before, and the character
itself if it is an opening brace. -/
theorem closes_depthAfter_iff {d : Nat} {c : Char} {cs : List Char} :
    Closes (depthAfter d c) cs ↔ (c = '{' → Closes 1 cs) ∧ Closes d (c :: cs) := by
  cases d with
  | zero =>
    by_cases hopen : c = '{'
    · rw [depthAfter, if_pos hopen]
      exact ⟨fun h => ⟨fun _ => h, trivial⟩, fun h => h.1 hopen⟩
    · rw [depthAfter, if_neg hopen, Nat.zero_sub, ite_self]
      exact iff_of_true (closes_zero cs) ⟨fun h => absurd h hopen, trivial⟩
  | succ d =>
    refine ⟨fun h => ⟨fun hopen => ?_, h⟩, And.right⟩
    rw [depthAfter, if_pos hopen] at h
    exact closes_one h

/-- The last of the open braces is closed where the braces before balance but for the others. -/
theorem closes_succ_iff {d : Nat} {p : List Char} : Closes (d + 1) p ↔
    ∃ body rest, p = body ++ '}' :: rest ∧ body.count '}' = body.count '{' + d := by
  induction p generalizing d with
  | nil => simp [Closes]
  | cons c cs ih =>
    have hsplit : (∃ body rest, c :: cs = body ++ '}' :: rest ∧
          body.count '}' = body.count '{' + d) ↔
        (c = '}' ∧ d = 0) ∨ ∃ body rest, cs = body ++ '}' :: rest ∧
          (c :: body).count '}' = (c :: body).count '{' + d := by
      constructor
      · rintro ⟨body, rest, heq, hcount⟩
        cases body with
        | nil => exact Or.inl ⟨(List.cons.inj heq).1, by simpa using hcount.symm⟩
        | cons b body =>
          obtain ⟨rfl, rfl⟩ := List.cons.inj heq
          exact Or.inr ⟨body, rest, rfl, hcount⟩
      · rintro (⟨rfl, rfl⟩ | ⟨body, rest, rfl, hcount⟩)
        · exact ⟨[], cs, rfl, rfl⟩
        · exact ⟨c :: body, rest, rfl, hcount⟩
    rw [hsplit, Closes, depthAfter]
    split_ifs with hopen hclose
    · rw [or_iff_right fun h => absurd (hopen.symm.trans h.1) (by decide), ih]
      refine exists_congr fun body => exists_congr fun rest => and_congr_right fun _ => ?_
      rw [hopen, List.count_cons_of_ne (by decide), List.count_cons_self]
      omega
    · cases d with
      | zero => exact iff_of_true (closes_zero cs) (Or.inl ⟨hclose, rfl⟩)
      | succ d =>
        rw [or_iff_right fun h => Nat.succ_ne_zero d h.2, Nat.add_sub_cancel, ih]
        refine exists_congr fun body => exists_congr fun rest => and_congr_right fun _ => ?_
        rw [hclose, List.count_cons_self, List.count_cons_of_ne (by decide)]
        omega
    · rw [or_iff_right fun h => hclose h.1, ih]
      refine exists_congr fun body => exists_congr fun rest => and_congr_right fun _ => ?_
      rw [List.count_cons_of_ne hclose, List.count_cons_of_ne hopen]

/-- An opening brace is unclosed if the rest behind it does not close it. -/
theorem hasUnclosed_iff {p : List Char} :
    HasUnclosed p ↔ ∃ a b, p = a ++ '{' :: b ∧ ¬ Closes 1 b := by
  refine exists_congr fun a => exists_congr fun b => and_congr_right fun _ => ?_
  rw [closes_succ_iff]
  push Not
  exact forall_congr' fun body => forall_congr' fun rest => imp_congr_right fun _ => ne_comm

theorem hasUnclosed_cons {c : Char} {cs : List Char} :
    HasUnclosed (c :: cs) ↔ (c = '{' ∧ ¬ Closes 1 cs) ∨ HasUnclosed cs := by
  rw [hasUnclosed_iff, hasUnclosed_iff]
  constructor
  · rintro ⟨a, b, heq, hb⟩
    cases a with
    | nil =>
      obtain ⟨rfl, rfl⟩ := List.cons.inj heq
      exact Or.inl ⟨rfl, hb⟩
    | cons d a =>
      obtain ⟨rfl, rfl⟩ := List.cons.inj heq
      exact Or.inr ⟨a, b, rfl, hb⟩
  · rintro (⟨rfl, hb⟩ | ⟨a, b, rfl, hb⟩)
    · exact ⟨[], cs, rfl, hb⟩
    · exact ⟨c :: a, b, rfl, hb⟩

/-- Outside classes every character is translated by itself. -/
theorem exists_regexTextFrom_cons {c : Char} (hc : c ≠ '[') (d : Nat) (cs : List Char) :
    ∃ a, regexTextFrom false d (c :: cs) = before a (regexTextFrom false (depthAfter d c) cs) := by
  unfold depthAfter
  split_ifs with hopen hclose
  · exact ⟨_, hopen ▸ regexTextFrom_open d cs⟩
  · cases d with
    | zero =>
      rw [hclose, regexTextFrom.eq_def]
      exact ⟨_, rfl⟩
    | succ d => exact ⟨_, hclose ▸ regexTextFrom_close d cs⟩
  · rw [regexTextFrom.eq_def]
    dsimp only
    rw [if_neg Bool.false_ne_true, if_neg hc, if_neg hopen,
      if_neg fun h : c = '}' ∧ 0 < d => hclose h.1]
    split_ifs <;> exact ⟨_, rfl⟩

/-- Without classes a pattern is translated exactly if it closes all its braces, and those that are
open before it. -/
theorem exists_regexTextFrom_iff {d : Nat} {p : List Char} (h : '[' ∉ p) :
    (∃ text, regexTextFrom false d p = .ok text) ↔ ¬ HasUnclosed p ∧ Closes d p := by
  induction p generalizing d with
  | nil =>
    have hnone : ¬ HasUnclosed [] := fun ⟨a, b, heq, _⟩ => by simp at heq
    cases d with
    | zero => exact iff_of_true ⟨[], rfl⟩ ⟨hnone, trivial⟩
    | succ d => exact iff_of_false (fun ⟨text, h⟩ => by cases h) fun h => h.2
  | cons c cs ih =>
    rw [List.mem_cons, not_or] at h
    obtain ⟨a, hcons⟩ := exists_regexTextFrom_cons (Ne.symm h.1) d cs
    have hok : (∃ text, regexTextFrom false d (c :: cs) = .ok text) ↔
        ∃ text, regexTextFrom false (depthAfter d c) cs = .ok text := by
      simp only [hcons, before_eq_ok_iff]
      exact ⟨fun ⟨_, text, h, _⟩ => ⟨text, h⟩, fun ⟨text, h⟩ => ⟨_, text, h, rfl⟩⟩
    rw [hok, ih h.2, hasUnclosed_cons, not_or, not_and_not_right, and_assoc, and_left_comm]
    exact and_congr_right fun _ => closes_depthAfter_iff

/-- Without classes only an open choice stops the translation. -/
theorem eq_of_regexTextFrom_eq_error {d : Nat} {p : List Char} {e : GlobError} (h : '[' ∉ p)
    (he : regexTextFrom false d p = .error e) : e = .unterminatedChoice := by
  induction p generalizing d with
  | nil =>
    cases d with
    | zero => cases he
    | succ d =>
      cases he
      rfl
  | cons c cs ih =>
    rw [List.mem_cons, not_or] at h
    obtain ⟨a, hcons⟩ := exists_regexTextFrom_cons (Ne.symm h.1) d cs
    rw [hcons] at he
    exact ih h.2 (map_eq_error_iff.1 he)

end SeriesRender.Glob
