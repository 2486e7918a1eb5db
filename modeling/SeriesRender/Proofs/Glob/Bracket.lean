import SeriesRender.Glob
import SeriesRender.Proofs.Regex.Reading

/-!
# Classes in brackets

A class of a path pattern is written into a regular expression between brackets, its characters
unescaped but for backslashes and opening brackets (`classText`). There they mean what such an
expression makes of them : `classSet?` says which set of characters a class stands for, if any, by
recursion on its characters. A range, a `^` at the start and the operators `&&`, `--` and `~~` have
their meaning of regular expressions; a class without a character has none, since its closing
bracket is then read as a member.

`scanClass_classText` says that the reader of regular expressions agrees, and reads no further than
the closing bracket. This needs that the text behind the class closes no other class
(`ClosesNoClass`), as is the case for what a path pattern is written into.
-/

namespace SeriesRender.Glob

open Regex

/-! ## What a class stands for -/

/-- The class `o` once its characters `body` are read, `items` being what it holds so far. -/
def bodySet? (o : OpenClass) (items : CharClass) : List Char → Option CharClass
  | [] => some (o.close items)
  | '&' :: '&' :: cs => bodySet? { o with left := some (.inter, o.settle items) } .nothing cs
  | '-' :: '-' :: cs => bodySet? { o with left := some (.diff, o.settle items) } .nothing cs
  | '~' :: '~' :: cs => bodySet? { o with left := some (.symmDiff, o.settle items) } .nothing cs
  | c :: '-' :: d :: cs =>
    if d = '-' then bodySet? o (items.add (.single false c)) ('-' :: d :: cs)
    else if c ≤ d then bodySet? o (items.add (.range false c d)) cs
    else none
  | c :: cs => bodySet? o (items.add (.single false c)) cs

/-- How a class starts behind its mark of a complement : what it holds before its first member, and
its characters from there on. Hyphens at the start stand for themselves. -/
def bodyStart? : List Char → Option (CharClass × List Char)
  | [] => none
  | '-' :: cs => some (.single false '-', cs.dropWhile (· = '-'))
  | c :: cs => some (.nothing, c :: cs)

/-- Whether a class is a complement, and its characters. A `^` at the start marks one too. -/
def splitCaret (negated : Bool) (body : List Char) : Bool × List Char :=
  match negated, body with
  | false, '^' :: cs => (true, cs)
  | negated, cs => (negated, cs)

/-- The set that a class of a path pattern stands for. -/
def classSet? (negated : Bool) (body : List Char) : Option CharClass :=
  (bodyStart? (splitCaret negated body).2).bind fun (items, cs) =>
    bodySet? ⟨(splitCaret negated body).1, .nothing, none⟩ items cs

/-- The characters of a class as they stand in the regular expression. -/
def bodyText (body : List Char) : List Char :=
  body.flatMap member

/-- What follows the opening bracket of a class, up to its closing bracket. -/
def classText (negated : Bool) (body : List Char) : List Char :=
  (if negated then ['^'] else []) ++ bodyText body

theorem bodyText_cons (c : Char) (cs : List Char) : bodyText (c :: cs) = member c ++ bodyText cs :=
  List.flatMap_cons

/-! ## Members and ranges -/

variable {o : OpenClass} {around : List OpenClass} {items : CharClass}

/-- A backslash in front of what would mean something else in a class. -/
theorem member_cases (c : Char) :
    ((c = '\\' ∨ c = '[') ∧ member c = ['\\', c]) ∨ (c ≠ '\\' ∧ c ≠ '[' ∧ member c = [c]) := by
  unfold member
  by_cases h : c = '\\' ∨ c = '['
  · exact Or.inl ⟨h, if_pos h⟩
  · exact Or.inr ⟨fun hc => h (Or.inl hc), fun hc => h (Or.inr hc), if_neg h⟩

/-- A member is read as its character, whatever follows. -/
theorem scanMember_member (c : Char) (Y : List Char) :
    ∃ h, scanMember {} (member c ++ Y) = some ⟨.literal c, Y, h⟩ := by
  rcases member_cases c with ⟨rfl | rfl, hc⟩ | ⟨hback, -, hc⟩
  · rw [hc]
    exact ⟨Nat.lt_succ_of_le (Nat.le_succ _), rfl⟩
  · rw [hc]
    exact ⟨Nat.lt_succ_of_le (Nat.le_succ _), rfl⟩
  · rw [hc]
    exact ⟨Nat.lt_succ_self _, scanMember.eq_3 {} c Y fun h => hback h⟩

/-- What stands behind a member that is no end of a range : no hyphen, or one before the end of the
class or another hyphen. -/
def StandsAlone (Y : List Char) : Prop :=
  ∃ d Z, Y = d :: Z ∧ (d = '-' → ∃ e W, Z = e :: W ∧ (e = ']' ∨ e = '-'))

/-- A member with no hyphen behind it is no range. -/
theorem scanRange_alone {c : Char} {cs Y : List Char} {hlt : Y.length < cs.length}
    (hfirst : scanMember {} cs = some ⟨.literal c, Y, hlt⟩) (hY : StandsAlone Y) :
    (scanRange {} cs).map Scanned.out = some (.single false c, Y) := by
  obtain ⟨d, Z, rfl, hd⟩ := hY
  rw [scanRange, hfirst, Option.bind_some]
  dsimp only
  split
  · next heq => cases heq
  · next cs' heq =>
    obtain ⟨rfl, rfl⟩ := List.cons.inj heq
    obtain ⟨e, W, rfl, rfl | rfl⟩ := hd rfl <;> rfl
  · rfl

/-- Two members around a hyphen are a range, unless it goes down. -/
theorem scanRange_range {c d : Char} {Y : List Char} (hd : d ≠ ']' ∧ d ≠ '-') :
    (scanRange {} (member c ++ '-' :: (member d ++ Y))).map Scanned.out =
      if c ≤ d then some (.range false c d, Y) else none := by
  obtain ⟨h, hfirst⟩ := scanMember_member c ('-' :: (member d ++ Y))
  obtain ⟨h', hsecond⟩ := scanMember_member d Y
  rw [scanRange, hfirst, Option.bind_some]
  have hjoins : joinsRange {} (member d ++ Y) = true := by
    rcases member_cases d with ⟨-, hm⟩ | ⟨-, -, hm⟩
    · rw [hm]
      rfl
    · rw [hm]
      change (d ≠ ']' && d ≠ '-') = true
      simp [hd]
  dsimp only
  split
  · next heq => cases heq
  · next cs' heq =>
    obtain ⟨-, rfl⟩ := List.cons.inj heq
    rw [if_pos hjoins]
    have hskip : scanMember {} (Flags.skip {} (member d ++ Y)) = some ⟨.literal d, Y, h'⟩ := hsecond
    rw [hskip, Option.bind_some]
    dsimp only
    split <;> rfl
  · next hne => exact absurd rfl (hne _)

/-- A member is read as such where it starts no operator. -/
theorem scanClassPiece_member {c : Char} {Y : List Char} (hc : c ≠ ']')
    (hop : c ∈ ['&', '-', '~'] → Y.head? ≠ some c) :
    (scanClassPiece {} (member c ++ Y)).map Scanned.out =
      ((scanRange {} (member c ++ Y)).map Scanned.out).map fun p => (.member p.1, p.2) := by
  have hmap : scanClassPiece {} (member c ++ Y) =
      (scanRange {} (member c ++ Y)).map (·.map .member) := by
    rcases member_cases c with ⟨rfl | rfl, hm⟩ | ⟨hback, hopen, hm⟩
    · rw [hm]
      rfl
    · rw [hm]
      rfl
    · rw [hm]
      refine scanClassPiece.eq_7 {} (c :: Y) (by simp) ?_ ?_ ?_ ?_ ?_
      · rintro cs h
        exact hopen (List.cons.inj h).1
      · rintro cs h
        exact hc (List.cons.inj h).1
      all_goals
        rintro cs h
        obtain ⟨rfl, rfl⟩ := List.cons.inj h
        exact hop (by simp) rfl
  rw [hmap]
  cases scanRange {} (member c ++ Y) <;> rfl

/-- A member with no hyphen behind it is added to the items of its class. -/
theorem itemsFrom_alone {c : Char} {Y : List Char} (hc : c ≠ ']')
    (hop : c ∈ ['&', '-', '~'] → Y.head? ≠ some c) (hY : StandsAlone Y) :
    itemsFrom o around items (member c ++ Y) =
      itemsFrom o around (items.add (.single false c)) Y := by
  obtain ⟨_, hfirst⟩ := scanMember_member c Y
  rw [itemsFrom_eq, scanClassPiece_member hc hop, scanRange_alone hfirst hY]
  rfl

/-- A range is added to the items of its class, and one that goes down is refused. -/
theorem itemsFrom_range {c d : Char} {Y : List Char} (hc : c ≠ ']' ∧ c ≠ '-')
    (hd : d ≠ ']' ∧ d ≠ '-') :
    itemsFrom o around items (member c ++ '-' :: (member d ++ Y)) =
      if c ≤ d then itemsFrom o around (items.add (.range false c d)) Y else none := by
  have hop : c ∈ ['&', '-', '~'] → ('-' :: (member d ++ Y)).head? ≠ some c :=
    fun _ h => hc.2 (Option.some.inj h).symm
  rw [itemsFrom_eq, scanClassPiece_member hc.1 hop, scanRange_range hd]
  split <;> rfl

/-- A closing bracket ends the innermost class, which becomes an item of the class around it. -/
theorem itemsFrom_closing {X : List Char} : itemsFrom o around items (']' :: X) =
    match around with
    | [] => some (o.close items, X)
    | outer :: around => itemsFrom outer around (o.outer.add (o.close items)) X := by
  rw [itemsFrom_eq]
  rfl

/-- An operator settles the items so far, and starts again with none. -/
theorem itemsFrom_operator {c : Char} {op : ClassOp} {X : List Char}
    (h : (c, op) ∈ [('&', ClassOp.inter), ('-', .diff), ('~', .symmDiff)]) :
    itemsFrom o around items (c :: c :: X) =
      itemsFrom { o with left := some (op, o.settle items) } around .nothing X := by
  rw [itemsFrom_eq]
  simp only [List.mem_cons, Prod.mk.injEq, List.not_mem_nil, or_false] at h
  rcases h with ⟨rfl, rfl⟩ | ⟨rfl, rfl⟩ | ⟨rfl, rfl⟩ <;> rfl

/-! ## Whole classes -/

/-- The text of a member starts with it, or with the backslash before it. -/
theorem exists_member_append (c : Char) (Y : List Char) :
    ∃ d Z, member c ++ Y = d :: Z ∧ (d = c ∨ d = '\\') := by
  rcases member_cases c with ⟨-, hm⟩ | ⟨-, -, hm⟩
  · exact ⟨'\\', c :: Y, by rw [hm]; rfl, Or.inr rfl⟩
  · exact ⟨c, Y, by rw [hm]; rfl, Or.inl rfl⟩

/-- The rest of a body does not start with a hyphen and something behind it. -/
theorem standsAlone_bodyText {body : List Char} (h : ∀ d cs, body ≠ '-' :: d :: cs)
    (X : List Char) : StandsAlone (bodyText body ++ ']' :: X) := by
  match body with
  | [] => exact ⟨']', X, rfl, fun h => absurd h (by decide)⟩
  | c :: cs =>
    by_cases hc : c = '-'
    · subst hc
      cases cs with
      | nil => exact ⟨'-', ']' :: X, rfl, fun _ => ⟨']', X, rfl, Or.inl rfl⟩⟩
      | cons d cs => exact absurd rfl (h d cs)
    · obtain ⟨d, Z, heq, hd⟩ := exists_member_append c (bodyText cs ++ ']' :: X)
      refine ⟨d, Z, by rw [bodyText_cons, List.append_assoc, heq], ?_⟩
      rintro rfl
      rcases hd with hd | hd
      · exact absurd hd.symm hc
      · exact absurd hd (by decide)

theorem head?_bodyText_ne {body : List Char} {x : Char} (hx : x ∈ ['&', '-', '~'])
    (h : ∀ cs, body ≠ x :: cs) (X : List Char) : (bodyText body ++ ']' :: X).head? ≠ some x := by
  intro hhead
  cases body with
  | nil =>
    obtain rfl := Option.some.inj hhead
    exact absurd hx (by decide)
  | cons c cs =>
    obtain ⟨d, Z, heq, hd⟩ := exists_member_append c (bodyText cs ++ ']' :: X)
    rw [bodyText_cons, List.append_assoc, heq] at hhead
    obtain rfl := Option.some.inj hhead
    rcases hd with rfl | rfl
    · exact h cs rfl
    · exact absurd hx (by decide)

/-- The rest of a class is read up to its closing bracket, whatever follows. -/
theorem itemsFrom_bodyText {body : List Char} (h : ']' ∉ body) (X : List Char) :
    itemsFrom o around items (bodyText body ++ ']' :: X) =
      (bodySet? o items body).bind fun s =>
        match around with
        | [] => some (s, X)
        | outer :: around => itemsFrom outer around (o.outer.add s) X := by
  have htext : ∀ c d cs, bodyText (c :: '-' :: d :: cs) ++ ']' :: X =
      member c ++ '-' :: (member d ++ (bodyText cs ++ ']' :: X)) := by
    intro c d cs
    have hhyphen : member '-' = ['-'] := rfl
    simp [bodyText_cons, hhyphen]
  -- the reader takes the same pieces off the text as the recursion does off the characters
  fun_induction bodySet? o items body with
  | case1 o items => exact itemsFrom_closing
  | case2 o items cs ih =>
    exact (itemsFrom_operator (by simp)).trans (ih (by simpa using h))
  | case3 o items cs ih =>
    exact (itemsFrom_operator (by simp)).trans (ih (by simpa using h))
  | case4 o items cs ih =>
    exact (itemsFrom_operator (by simp)).trans (ih (by simpa using h))
  | case5 o items c cs hc ih =>
    -- two hyphens are an operator, so the first of them joins no range
    have halone : StandsAlone (bodyText ('-' :: '-' :: cs) ++ ']' :: X) :=
      ⟨'-', '-' :: (bodyText cs ++ ']' :: X), rfl, fun _ => ⟨_, _, rfl, Or.inr rfl⟩⟩
    rw [List.mem_cons, not_or] at h
    have hop : c ∈ ['&', '-', '~'] → (bodyText ('-' :: '-' :: cs) ++ ']' :: X).head? ≠ some c :=
      fun _ hhead => hc (Option.some.inj (hhead : some '-' = some c)).symm
    rw [bodyText_cons, List.append_assoc, itemsFrom_alone (Ne.symm h.1) hop halone]
    exact ih h.2
  | case6 o items c d cs hc hd hle ih =>
    obtain ⟨hc', hd', hcs⟩ : c ≠ ']' ∧ d ≠ ']' ∧ ']' ∉ cs := by simpa [eq_comm] using h
    rw [htext c d cs, itemsFrom_range ⟨hc', hc⟩ ⟨hd', hd⟩, if_pos hle]
    exact ih hcs
  | case7 o items c d cs hc hd hle =>
    obtain ⟨hc', hd', -⟩ : c ≠ ']' ∧ d ≠ ']' ∧ ']' ∉ cs := by simpa [eq_comm] using h
    rw [htext c d cs, itemsFrom_range ⟨hc', hc⟩ ⟨hd', hd⟩, if_neg hle]
    rfl
  | case8 o items c cs hand hminus htilde hrange ih =>
    have hop : c ∈ ['&', '-', '~'] → (bodyText cs ++ ']' :: X).head? ≠ some c := by
      intro hc
      refine head?_bodyText_ne hc (fun ds heq => ?_) X
      simp only [List.mem_cons, List.not_mem_nil, or_false] at hc
      rcases hc with rfl | rfl | rfl
      · exact hand ds rfl heq
      · exact hminus ds rfl heq
      · exact htilde ds rfl heq
    rw [List.mem_cons, not_or] at h
    rw [bodyText_cons, List.append_assoc,
      itemsFrom_alone (Ne.symm h.1) hop (standsAlone_bodyText (fun d ds heq => hrange d ds heq) X)]
    exact ih h.2

/-- How a class is read behind its mark of a complement : a closing bracket at the start is a
member. -/
def startOf : List Char → CharClass × List Char
  | ']' :: cs => (.single false ']', cs)
  | '-' :: cs => (.single false '-', cs.dropWhile (· = '-'))
  | cs => (.nothing, cs)

theorem startOf_eq_self {cs : List Char} (h1 : ∀ r, cs ≠ ']' :: r) (h2 : ∀ r, cs ≠ '-' :: r) :
    startOf cs = (.nothing, cs) :=
  startOf.eq_3 cs h1 h2

theorem scanClassStart_caret (r : List Char) :
    ∃ h, scanClassStart {} ('^' :: r) = (true, (startOf r).1, ⟨(startOf r).2, h⟩) := by
  rcases hs : scanClassStart {} ('^' :: r) with ⟨n, s, rest, hrest⟩
  unfold scanClassStart at hs
  dsimp only at hs
  split at hs
  · next heq _ =>
    obtain rfl : r = ']' :: _ := heq
    cases hs
    exact ⟨_, rfl⟩
  · next heq _ =>
    obtain rfl : r = '-' :: _ := heq
    cases hs
    exact ⟨_, rfl⟩
  · next h1 h2 =>
    have hne : startOf r = (.nothing, r) :=
      startOf_eq_self (fun q hq => h1 q (hq ▸ Nat.le_succ _) hq (proof_irrel_heq ..))
        fun q hq => h2 q (hq ▸ Nat.le_succ _) hq (proof_irrel_heq ..)
    cases hs
    exact ⟨hne ▸ Nat.le_succ _, Prod.ext rfl (Prod.ext (congrArg Prod.fst hne).symm
      (Subtype.ext (congrArg Prod.snd hne).symm))⟩

theorem scanClassStart_of_ne {cs : List Char} (h : ∀ r, cs ≠ '^' :: r) :
    ∃ h, scanClassStart {} cs = (false, (startOf cs).1, ⟨(startOf cs).2, h⟩) := by
  rcases hs : scanClassStart {} cs with ⟨n, s, rest, hrest⟩
  unfold scanClassStart at hs
  dsimp only at hs
  split at hs
  · next heq _ =>
    split at heq
    · next hc => exact absurd hc (h _)
    · cases heq
      cases hs
      exact ⟨_, rfl⟩
  · next heq _ =>
    split at heq
    · next hc => exact absurd hc (h _)
    · cases heq
      cases hs
      exact ⟨_, rfl⟩
  · next h1 h2 =>
    have hne : startOf cs = (.nothing, cs) := by
      refine startOf_eq_self
        (fun q hq => h1 q (hq ▸ Nat.le_refl _) ?_ (proof_irrel_heq ..))
        fun q hq => h2 q (hq ▸ Nat.le_refl _) ?_ (proof_irrel_heq ..)
      all_goals
        split
        · next hc => exact absurd hc (h _)
        · exact hq
    cases hs
    refine ⟨hne ▸ Nat.le_refl _,
      Prod.ext ?_ (Prod.ext (congrArg Prod.fst hne).symm (Subtype.ext ?_))⟩
    · dsimp only
      split
      · next hc => exact absurd hc (h _)
      · rfl
    · refine Eq.trans ?_ (congrArg Prod.snd hne).symm
      dsimp only
      split
      · next hc => exact absurd hc (h _)
      · rfl

/-- Behind its mark of a complement a class starts as `bodyStart?` says; without a character its
closing bracket becomes a member. -/
theorem startOf_bodyText {body : List Char} (h : ']' ∉ body) (X : List Char) :
    startOf (bodyText body ++ ']' :: X) =
      match bodyStart? body with
      | some (items, cs) => (items, bodyText cs ++ ']' :: X)
      | none => (.single false ']', X) := by
  match body with
  | [] => rfl
  | c :: cs =>
    by_cases hc : c = '-'
    · subst hc
      have hdrop : (bodyText cs ++ ']' :: X).dropWhile (· = '-') =
          bodyText (cs.dropWhile (· = '-')) ++ ']' :: X := by
        induction cs with
        | nil => rfl
        | cons d cs ih =>
          by_cases hd : d = '-'
          · subst hd
            exact ih (by simpa using h)
          · obtain ⟨e, Z, heq, he⟩ := exists_member_append d (bodyText cs ++ ']' :: X)
            have he' : e ≠ '-' := by
              rcases he with rfl | rfl
              · exact hd
              · decide
            rw [List.dropWhile_cons_of_neg (by simpa using hd), bodyText_cons, List.append_assoc,
              heq, List.dropWhile_cons_of_neg (by simpa using he')]
      exact Prod.ext rfl hdrop
    · have hstart : bodyStart? (c :: cs) = some (.nothing, c :: cs) :=
        bodyStart?.eq_3 c cs fun h => hc h
      have hclose : c ≠ ']' := by
        rintro rfl
        exact h (List.mem_cons_self ..)
      have hne : ∀ x r, x ≠ c → x ≠ '\\' → bodyText (c :: cs) ++ ']' :: X ≠ x :: r := by
        intro x r hx hback heq
        obtain ⟨d, Z, hmember, hd⟩ := exists_member_append c (bodyText cs ++ ']' :: X)
        rw [bodyText_cons, List.append_assoc, hmember] at heq
        obtain rfl := (List.cons.inj heq).1
        exact hd.elim hx hback
      rw [hstart]
      exact startOf_eq_self (fun r => hne ']' r (Ne.symm hclose) (by decide))
        fun r => hne '-' r (Ne.symm hc) (by decide)

/-- How a class starts depends on its body only, and not on what follows it. -/
theorem scanClassStart_classText (negated : Bool) (body X : List Char) :
    ∃ h, scanClassStart {} (classText negated body ++ ']' :: X) =
      ((splitCaret negated body).1,
        (startOf (bodyText (splitCaret negated body).2 ++ ']' :: X)).1,
        ⟨(startOf (bodyText (splitCaret negated body).2 ++ ']' :: X)).2, h⟩) := by
  match negated, body with
  | true, body => exact scanClassStart_caret (bodyText body ++ ']' :: X)
  | false, [] => exact scanClassStart_of_ne fun r heq => absurd (List.cons.inj heq).1 (by decide)
  | false, c :: cs =>
    by_cases hc : c = '^'
    · subst hc
      exact scanClassStart_caret (bodyText cs ++ ']' :: X)
    · have hsplit : splitCaret false (c :: cs) = (false, c :: cs) :=
        splitCaret.eq_2 false (c :: cs) fun ds _ heq => hc (List.cons.inj heq).1
      rw [hsplit]
      refine scanClassStart_of_ne fun r heq => ?_
      obtain ⟨d, Z, hmember, hd⟩ := exists_member_append c (bodyText cs ++ ']' :: X)
      have htext : classText false (c :: cs) ++ ']' :: X = d :: Z := by
        rw [← hmember, ← List.append_assoc, ← bodyText_cons]
        rfl
      obtain ⟨rfl, -⟩ := List.cons.inj (htext.symm.trans heq)
      rcases hd with hd | hd
      · exact hc hd.symm
      · exact absurd hd (by decide)

/-- In the text no class that is open before it is closed. -/
def ClosesNoClass (X : List Char) : Prop :=
  ∀ (o : OpenClass) (around : List OpenClass) (items : CharClass), itemsFrom o around items X = none

theorem bodyStart?_subset {body cs : List Char} {items : CharClass}
    (h : bodyStart? body = some (items, cs)) : cs ⊆ body := by
  unfold bodyStart? at h
  split at h
  · cases h
  · cases h
    exact List.Subset.trans (List.dropWhile_suffix _).subset (List.subset_cons_self _ _)
  · cases h
    exact List.Subset.refl _

theorem splitCaret_subset (negated : Bool) (body : List Char) :
    (splitCaret negated body).2 ⊆ body := by
  unfold splitCaret
  split
  · exact List.subset_cons_self _ _
  · exact List.Subset.refl _

/-- Behind its opening bracket a class is read up to its closing bracket; `outer` is what the class
around it holds so far. -/
theorem exists_scanClassStart_eq {negated : Bool} {body X : List Char} (h : ']' ∉ body)
    (hX : ClosesNoClass X) (outer : CharClass) (around : List OpenClass) :
    ∃ n start rest hle,
      scanClassStart {} (classText negated body ++ ']' :: X) = (n, start, ⟨rest, hle⟩) ∧
      itemsFrom ⟨n, outer, none⟩ around start rest =
        ((bodyStart? (splitCaret negated body).2).bind fun (items, cs) =>
          bodySet? ⟨n, outer, none⟩ items cs).bind fun s =>
            match around with
            | [] => some (s, X)
            | o :: around => itemsFrom o around (outer.add s) X := by
  obtain ⟨hle, hstart⟩ := scanClassStart_classText negated body X
  have hsub : ']' ∉ (splitCaret negated body).2 :=
    fun hmem => h (splitCaret_subset negated body hmem)
  refine ⟨_, _, _, hle, hstart, ?_⟩
  rw [startOf_bodyText hsub]
  cases hbody : bodyStart? (splitCaret negated body).2 with
  | none => exact hX _ _ _
  | some p => exact itemsFrom_bodyText (fun hmem => hsub (bodyStart?_subset hbody hmem)) X

/-- A class is read as the set it stands for, up to its closing bracket. -/
theorem scanClass_classText {negated : Bool} {body X : List Char} (h : ']' ∉ body)
    (hX : ClosesNoClass X) :
    (scanClass {} (classText negated body ++ ']' :: X)).map Scanned.out =
      (classSet? negated body).map (·, X) := by
  obtain ⟨n, start, rest, hle, hstart, hread⟩ := exists_scanClassStart_eq h hX .nothing []
  obtain ⟨_, hsplit⟩ := scanClassStart_classText negated body X
  have hn : n = (splitCaret negated body).1 := congrArg Prod.fst (hstart.symm.trans hsplit)
  rw [scanClass, hstart, classSet?, ← hn]
  dsimp only
  rw [map_out_map_widen]
  refine hread.trans ?_
  cases bodyStart? (splitCaret negated body).2 with
  | none => rfl
  | some p => cases h : bodySet? ⟨n, .nothing, none⟩ p.1 p.2 <;> simp [h]

/-! ## What closes no class -/

/-- Escaping a body does not put the closing bracket into it. -/
theorem not_mem_bodyText {body : List Char} (h : ']' ∉ body) : ']' ∉ bodyText body := by
  intro hmem
  obtain ⟨c, hc, hmem⟩ := List.mem_flatMap.1 hmem
  rcases member_cases c with ⟨-, hm⟩ | ⟨-, -, hm⟩
  all_goals
    rw [hm] at hmem
    simp only [List.mem_cons, List.not_mem_nil, or_false, false_or, Char.reduceEq] at hmem
    exact h (hmem ▸ hc)

theorem not_mem_classText {negated : Bool} {body : List Char} (h : ']' ∉ body) :
    ']' ∉ classText negated body := by
  rw [classText, List.mem_append, not_or]
  exact ⟨by cases negated <;> decide, not_mem_bodyText h⟩

/-- No name of a class has a closing bracket in it. -/
theorem not_mem_of_namedRanges? {name : List Char} {ranges : List (Char × Char)}
    (h : CharClass.namedRanges? (String.ofList name) = some ranges) : ']' ∉ name := by
  have hname : ∀ text : String, ']' ∉ text.toList → String.ofList name = text → ']' ∉ name := by
    rintro _ hnot rfl
    rwa [String.toList_ofList] at hnot
  unfold CharClass.namedRanges? at h
  split at h
  all_goals first
    | next heq => exact hname _ (by simp) heq
    | cases h

/-- The first closing bracket is found behind a text that has none. -/
theorem dropWhile_append_closing {before : List Char} (h : ']' ∉ before) (X : List Char) :
    (before ++ ']' :: X).dropWhile (· ≠ ']') = ']' :: X := by
  rw [List.dropWhile_append_of_pos]
  · rfl
  · exact fun c hc => decide_eq_true fun heq => h (heq ▸ hc)

/-- A named class ends at the first closing bracket. -/
theorem dropWhile_of_scanNamed {cs : List Char} {s : Scanned CharClass cs.length}
    (h : scanNamed {} cs = some s) : cs.dropWhile (· ≠ ']') = ']' :: s.rest := by
  unfold scanNamed at h
  split at h
  · next cs =>
    dsimp only at h
    split at h
    · next rest hrest =>
      obtain ⟨ranges, hranges, h⟩ := Option.bind_eq_some_iff.1 h
      have hnot := not_mem_of_namedRanges? hranges
      rw [if_neg (by simp)] at h
      obtain rfl := Option.some.inj h
      have hcaret : (':' :: cs).dropWhile (· ≠ ']') =
          (if cs.head? = some '^' then cs.tail else cs).dropWhile (· ≠ ']') := by
        split
        · next hhead =>
          obtain ⟨cs, rfl⟩ := List.head?_eq_some_iff.1 hhead
          rfl
        · rfl
      have hname := List.takeWhile_append_dropWhile (p := (· ≠ ':'))
        (l := if cs.head? = some '^' then cs.tail else cs)
      rw [hrest, List.append_cons] at hname
      refine hcaret.trans ?_
      change _ = ']' :: rest
      rw [← hname]
      exact dropWhile_append_closing (by simpa using hnot) rest
    · cases h
  · cases h

/-- A named class in brackets of its own is one member. -/
theorem scanClassPiece_named {cs : List Char} {s : Scanned CharClass cs.length}
    (h : scanNamed {} cs = some s) :
    (scanClassPiece {} ('[' :: cs)).map Scanned.out = some (.member s.value, s.rest) := by
  rw [scanClassPiece, h]
  rfl

/-- A bracket that opens no named class opens a class in the class. -/
theorem scanClassPiece_opening {cs rest : List Char} {n : Bool} {start : CharClass}
    {hle : rest.length ≤ cs.length} (h : scanNamed {} cs = none)
    (hstart : scanClassStart {} cs = (n, start, ⟨rest, hle⟩)) :
    (scanClassPiece {} ('[' :: cs)).map Scanned.out = some (.opening n start, rest) := by
  rw [scanClassPiece, h, hstart]
  rfl

/-- A whole class closes none that is open before it. -/
theorem closesNoClass_class {negated : Bool} {body X : List Char} (h : ']' ∉ body)
    (hX : ClosesNoClass X) : ClosesNoClass ('[' :: (classText negated body ++ ']' :: X)) := by
  intro o around items
  rw [itemsFrom_eq]
  cases hnamed : scanNamed {} (classText negated body ++ ']' :: X) with
  | some s =>
    have hrest : ']' :: X = ']' :: s.rest :=
      (dropWhile_append_closing (not_mem_classText h) X).symm.trans (dropWhile_of_scanNamed hnamed)
    rw [scanClassPiece_named hnamed, ← (List.cons.inj hrest).2]
    exact hX o around (items.add s.value)
  | none =>
    obtain ⟨n, start, rest, hle, hstart, hread⟩ := exists_scanClassStart_eq h hX items (o :: around)
    rw [scanClassPiece_opening hnamed hstart]
    refine hread.trans ?_
    rw [Option.bind_eq_none_iff]
    exact fun s _ => hX o around (items.add s)

end SeriesRender.Glob
