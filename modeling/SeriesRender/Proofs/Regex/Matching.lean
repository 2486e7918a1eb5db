import SeriesRender.Regex.Matcher

/-!
# What a pattern matches

`Pattern.matching` says which pieces of a text a pattern matches, given the character before the
piece and the text behind it, which is all that its assertions can see. `Pattern.isMatch_iff` says
that the matcher finds a pattern in a text exactly if some piece of the text matches.

The matcher keeps, for each thread, what is left to do. `Agree` says of the next steps of a thread
that they lead on to the pieces which match what is left, and each way of building steps out of
others keeps this : `Agree.andThen` is the law for one thing after the other, and
`Pattern.agree_steps` has a case for each kind of pattern. `isSome_runThreads_iff` is the run over
the text. Marks play no part : they say where groups are, never whether there is a match.
-/

namespace SeriesRender.Regex

/-! ## Pieces of a text -/

/-- The last character of a text that starts with what precedes it. -/
def lastOf : Option Char → List Char → Option Char
  | before, [] => before
  | _, c :: u => lastOf (some c) u

@[simp] theorem lastOf_nil (before : Option Char) : lastOf before [] = before := rfl

@[simp] theorem lastOf_cons (before : Option Char) (c : Char) (u : List Char) :
    lastOf before (c :: u) = lastOf (some c) u := rfl

theorem lastOf_append (before : Option Char) (u v : List Char) :
    lastOf before (u ++ v) = lastOf (lastOf before u) v := by
  induction u generalizing before with
  | nil => rfl
  | cons c u ih => exact ih (some c)

/-- There is no last character just at the start of a text. -/
theorem lastOf_eq_none_iff {u : List Char} : lastOf none u = none ↔ u = [] := by
  have hsome : ∀ (c : Char) (u : List Char), lastOf (some c) u ≠ none := by
    intro c u
    induction u generalizing c with
    | nil => exact Option.some_ne_none c
    | cons d u ih => exact ih d
  cases u with
  | nil => exact iff_of_true rfl rfl
  | cons c u => exact iff_of_false (hsome c u) (List.cons_ne_nil c u)

/-- Which pieces of a text match, given the character before the piece and the text behind it. -/
abbrev Matching := Option Char → List Char → List Char → Prop

namespace Matching

/-- The empty piece. -/
def empty : Matching :=
  fun _ u _ => u = []

/-- One piece, and right behind it another one. -/
def seq (A B : Matching) : Matching :=
  fun b u r => ∃ v w, u = v ++ w ∧ A b v (w ++ r) ∧ B (lastOf b v) w r

/-- So many pieces, one behind the other. -/
def times (A : Matching) : Nat → Matching
  | 0 => empty
  | n + 1 => seq A (times A n)

/-- At least `least` pieces and at most `most`; a greatest number below the least one counts as
that. -/
def rep (A : Matching) (least : Nat) (most : Option Nat) : Matching :=
  fun b u r => ∃ n, least ≤ n ∧ (∀ m ∈ most, n ≤ max least m) ∧ times A n b u r

variable {A B C : Matching} {b : Option Char} {u r : List Char}

/-- Matching nothing first changes nothing. -/
theorem empty_seq : seq empty A = A := by
  funext b u r
  refine propext ⟨?_, fun h => ⟨[], u, rfl, rfl, h⟩⟩
  rintro ⟨_, w, rfl, rfl, h⟩
  exact h

theorem seq_empty : seq A empty = A := by
  funext b u r
  refine propext ⟨?_, fun h => ⟨u, [], (List.append_nil u).symm, h, rfl⟩⟩
  rintro ⟨v, _, rfl, hv, rfl⟩
  rwa [List.append_nil]

/-- Which of three patterns are taken together does not matter. -/
theorem seq_assoc : seq (seq A B) C = seq A (seq B C) := by
  funext b u r
  refine propext ⟨?_, ?_⟩
  · rintro ⟨_, x, rfl, ⟨v, w, rfl, hA, hB⟩, hC⟩
    rw [← List.append_assoc] at hA
    rw [lastOf_append] at hC
    exact ⟨v, w ++ x, List.append_assoc .., hA, w, x, rfl, hB, hC⟩
  · rintro ⟨v, _, rfl, hA, w, x, rfl, hB, hC⟩
    rw [List.append_assoc] at hA
    rw [← lastOf_append] at hC
    exact ⟨v ++ w, x, (List.append_assoc ..).symm, ⟨v, w, rfl, hA, hB⟩, hC⟩

/-- A repetition is as many pieces as it takes at least, then a repetition of what is left. -/
theorem rep_succ (n : Nat) (most : Option Nat) :
    rep A (n + 1) (most.map (· + 1)) = seq A (rep A n most) := by
  funext b u r
  refine propext ⟨?_, ?_⟩
  · rintro ⟨m, hle, hmost, h⟩
    obtain ⟨k, rfl⟩ : ∃ k, m = k + 1 := ⟨m - 1, by omega⟩
    obtain ⟨v, w, rfl, hA, hk⟩ := h
    refine ⟨v, w, rfl, hA, k, by omega, fun j hj => ?_, hk⟩
    have := hmost (j + 1) (by simp [Option.mem_def.1 hj])
    omega
  · rintro ⟨v, w, rfl, hA, k, hle, hmost, hk⟩
    refine ⟨k + 1, by omega, fun j hj => ?_, v, w, rfl, hA, hk⟩
    obtain ⟨i, hi, rfl⟩ := Option.map_eq_some_iff.1 (Option.mem_def.1 hj)
    have := hmost i hi
    omega

/-- A repetition that may be empty is empty, or is made once at least and not too often. -/
theorem rep_zero_iff {most : Option Nat} : rep A 0 most b u r ↔
    u = [] ∨ ∃ n, (∀ m ∈ most, n + 1 ≤ m) ∧ times A (n + 1) b u r := by
  constructor
  · rintro ⟨n, -, hmost, h⟩
    cases n with
    | zero => exact Or.inl h
    | succ n => exact Or.inr ⟨n, fun m hm => by simpa using hmost m hm, h⟩
  · rintro (rfl | ⟨n, hmost, h⟩)
    · exact ⟨0, Nat.le_refl 0, fun _ _ => Nat.zero_le _, rfl⟩
    · exact ⟨n + 1, Nat.zero_le _, fun m hm => by simpa using hmost m hm, h⟩

/-- Empty pieces can be left out of a repetition. -/
theorem rep_zero_none_iff : rep A 0 none b u r ↔
    u = [] ∨ ∃ c v w, u = c :: (v ++ w) ∧ A b (c :: v) (w ++ r) ∧
      rep A 0 none (lastOf (some c) v) w r := by
  constructor
  · rintro ⟨n, -, -, h⟩
    induction n generalizing u with
    | zero => exact Or.inl h
    | succ n ih =>
      obtain ⟨v, w, rfl, hA, h⟩ := h
      cases v with
      | nil => exact ih h
      | cons c v => exact Or.inr ⟨c, v, w, rfl, hA, n, Nat.zero_le n, by simp, h⟩
  · rintro (rfl | ⟨c, v, w, rfl, hA, n, -, -, h⟩)
    · exact ⟨0, Nat.le_refl 0, by simp, rfl⟩
    · exact ⟨n + 1, Nat.zero_le _, by simp, c :: v, w, rfl, hA, h⟩

/-- One piece or more : an empty one, or one that is not, and then any number. -/
theorem rep_one_none_iff : rep A 1 none b u r ↔
    (u = [] ∧ A b [] r) ∨ ∃ c v w, u = c :: (v ++ w) ∧ A b (c :: v) (w ++ r) ∧
      rep A 0 none (lastOf (some c) v) w r := by
  have hrep : rep A 1 none = seq A (rep A 0 none) := rep_succ 0 none
  rw [hrep]
  constructor
  · rintro ⟨v, w, rfl, hA, h⟩
    cases v with
    | nil =>
      rcases rep_zero_none_iff.1 h with rfl | h
      · exact Or.inl ⟨rfl, hA⟩
      · exact Or.inr h
    | cons c v => exact Or.inr ⟨c, v, w, rfl, hA, h⟩
  · rintro (⟨rfl, hA⟩ | ⟨c, v, w, rfl, hA, h⟩)
    · exact ⟨[], [], rfl, hA, rep_zero_none_iff.2 (Or.inl rfl)⟩
    · exact ⟨c :: v, w, rfl, hA, h⟩

end Matching

/-- What a pattern matches. -/
def Pattern.matching : Pattern → Matching
  | .empty => Matching.empty
  | .set s => fun _ u _ => ∃ c, u = [c] ∧ s.contains c = true
  | .look l => fun b u r => u = [] ∧ l.holds ⟨b, r.head?⟩ = true
  | .cat p q => p.matching.seq q.matching
  | .alt p q => fun b u r => p.matching b u r ∨ q.matching b u r
  | .group _ p => p.matching
  | .rep _ least most p => p.matching.rep least most

/-! ## Steps -/

/-- What is matched by something that is left to do. -/
def Todo.matching : Todo → Matching
  | .pattern p => p.matching
  | .close _ => Matching.empty
  | .again _ p => p.matching.rep 0 none

/-- What a list of things to do matches. -/
def todoMatching : List Todo → Matching
  | [] => Matching.empty
  | t :: ts => t.matching.seq (todoMatching ts)

theorem todoMatching_append (ts us : List Todo) :
    todoMatching (ts ++ us) = (todoMatching ts).seq (todoMatching us) := by
  induction ts with
  | nil => exact Matching.empty_seq.symm
  | cons t ts ih => rw [List.cons_append, todoMatching, todoMatching, ih, Matching.seq_assoc]

/-- What some steps lead on to : the empty piece if one of them ends, and the pieces that go on,
behind a character that one of them takes, with what it leaves to do. -/
def stepsMatching (steps : List Step) : Matching :=
  fun _ u r =>
    match u with
    | [] => ∃ marks, .done marks ∈ steps
    | c :: v => ∃ s todo marks, .take s todo marks ∈ steps ∧ s.contains c = true ∧
        todoMatching todo (some c) v r

/-- Steps that take a character are kept where only the first end counts. -/
theorem mem_take_firstDone {steps : List Step} {s : CharClass} {todo : List Todo} {marks : Marks} :
    .take s todo marks ∈ firstDone steps ↔ .take s todo marks ∈ steps := by
  fun_induction firstDone steps with
  | case1 => rfl
  | case2 s todo marks rest ih => simp [ih]
  | case3 marks rest => simp

theorem exists_done_firstDone {steps : List Step} :
    (∃ marks, .done marks ∈ firstDone steps) ↔ ∃ marks, .done marks ∈ steps := by
  fun_induction firstDone steps with
  | case1 => rfl
  | case2 s todo marks rest ih => simp [ih]
  | case3 marks rest => exact iff_of_true ⟨marks, by simp⟩ ⟨marks, by simp⟩

variable {b : Option Char} {u r cs : List Char}

theorem stepsMatching_firstDone {steps : List Step} :
    stepsMatching (firstDone steps) b u r ↔ stepsMatching steps b u r := by
  cases u with
  | nil => exact exists_done_firstDone
  | cons c v => simp only [stepsMatching, mem_take_firstDone]

theorem stepsMatching_append {ss ts : List Step} :
    stepsMatching (ss ++ ts) b u r ↔ stepsMatching ss b u r ∨ stepsMatching ts b u r := by
  cases u with
  | nil => simp only [stepsMatching, List.mem_append, exists_or]
  | cons c v => simp only [stepsMatching, List.mem_append, or_and_right, exists_or]

theorem stepsMatching_done {marks : Marks} : stepsMatching [.done marks] b u r ↔ u = [] := by
  cases u <;> simp [stepsMatching]

/-- Greed changes the order of the steps, and not which ones there are. -/
theorem stepsMatching_either {greedy : Bool} {ss ts : List Step} :
    stepsMatching (either greedy ss ts) b u r ↔
      stepsMatching ss b u r ∨ stepsMatching ts b u r := by
  unfold either
  rw [stepsMatching_firstDone]
  cases greedy
  · rw [if_neg (by decide), stepsMatching_append, or_comm]
  · rw [if_pos rfl, stepsMatching_append]

/-- Steps that take a character match no empty text. -/
theorem stepsMatching_takes {steps : List Step} :
    stepsMatching (takes steps) b u r ↔ u ≠ [] ∧ stepsMatching steps b u r := by
  cases u with
  | nil => simp [stepsMatching, takes]
  | cons c v => simp [stepsMatching, takes]

/-- Where steps end, what follows comes from the same place; where they take a character, it is
left to do. -/
theorem stepsMatching_andThen {steps : List Step} {rest : List Todo} {next : Marks → List Step} :
    stepsMatching (andThen steps rest next) b u r ↔
      (∃ marks, .done marks ∈ steps ∧ stepsMatching (next marks) b u r) ∨
      ∃ c v w, u = c :: (v ++ w) ∧ stepsMatching steps b (c :: v) (w ++ r) ∧
        todoMatching rest (lastOf (some c) v) w r := by
  unfold andThen
  rw [stepsMatching_firstDone]
  cases u with
  | nil =>
    simp only [stepsMatching, List.mem_flatMap]
    constructor
    · rintro ⟨marks, step, hstep, h⟩
      cases step with
      | done m => exact Or.inl ⟨m, hstep, marks, h⟩
      | take s todo m => simp at h
    · rintro (⟨m, hm, marks, h⟩ | ⟨c, v, w, h, -⟩)
      · exact ⟨marks, _, hm, h⟩
      · cases h
  | cons c x =>
    simp only [stepsMatching, List.mem_flatMap]
    constructor
    · rintro ⟨s, todo, marks, ⟨step, hstep, h⟩, hc, htodo⟩
      cases step with
      | done m => exact Or.inl ⟨m, hstep, s, todo, marks, h, hc, htodo⟩
      | take s' todo' m =>
        rw [List.mem_singleton] at h
        cases h
        rw [todoMatching_append] at htodo
        obtain ⟨v, w, rfl, hv, hw⟩ := htodo
        exact Or.inr ⟨c, v, w, rfl, ⟨s, todo', marks, hstep, hc, hv⟩, hw⟩
    · rintro (⟨m, hm, s, todo, marks, h, hc, htodo⟩ |
        ⟨_, v, w, heq, ⟨s, todo, marks, hstep, hc, hv⟩, hw⟩)
      · exact ⟨s, todo, marks, ⟨_, hm, h⟩, hc, htodo⟩
      · obtain ⟨rfl, rfl⟩ := List.cons.inj heq
        refine ⟨s, todo ++ rest, marks, ⟨_, hstep, by simp⟩, hc, ?_⟩
        rw [todoMatching_append]
        exact ⟨v, w, rfl, hv, hw⟩

/-- Between the character `b` and the text `cs`, the steps lead on to what `A` matches. -/
def Agree (b : Option Char) (cs : List Char) (steps : List Step) (A : Matching) : Prop :=
  ∀ u r, cs = u ++ r → (stepsMatching steps b u r ↔ A b u r)

variable {A : Matching} {steps : List Step}

theorem agree_done (marks : Marks) : Agree b cs [.done marks] Matching.empty :=
  fun _ _ _ => stepsMatching_done

/-- Steps that go on with the rest match in sequence. -/
theorem Agree.andThen (h : Agree b cs steps A) (rest : List Todo) (next : Marks → List Step)
    (hnext : ∀ marks, Agree b cs (next marks) (todoMatching rest)) :
    Agree b cs (andThen steps rest next) (A.seq (todoMatching rest)) := by
  rintro u r rfl
  rw [stepsMatching_andThen]
  constructor
  · rintro (⟨marks, hdone, hu⟩ | ⟨c, v, w, rfl, hv, hw⟩)
    · exact ⟨[], u, rfl, (h [] (u ++ r) rfl).1 ⟨marks, hdone⟩, (hnext marks u r rfl).1 hu⟩
    · exact ⟨c :: v, w, rfl, (h (c :: v) (w ++ r) (by simp)).1 hv, hw⟩
  · rintro ⟨v, w, rfl, hv, hw⟩
    rw [List.append_assoc] at h
    cases v with
    | nil =>
      obtain ⟨marks, hdone⟩ := (h [] (w ++ r) rfl).2 hv
      exact Or.inl ⟨marks, hdone, (hnext marks w r rfl).2 hw⟩
    | cons c v => exact Or.inr ⟨c, v, w, rfl, (h (c :: v) (w ++ r) rfl).2 hv, hw⟩

/-! ## Repetitions -/

section Repetition

variable {greedy : Bool} {p : Pattern} {next : Marks → List Step}

theorem todoMatching_singleton (t : Todo) : todoMatching [t] = t.matching :=
  Matching.seq_empty

theorem agree_stepsAgain (h : ∀ marks, Agree b cs (next marks) p.matching) (marks : Marks) :
    Agree b cs (stepsAgain greedy p next marks) (p.matching.rep 0 none) := by
  rintro u r rfl
  unfold stepsAgain
  rw [stepsMatching_either, stepsMatching_done, stepsMatching_andThen, Matching.rep_zero_none_iff,
    todoMatching_singleton, or_comm]
  refine or_congr_right ⟨?_, ?_⟩
  · rintro (⟨_, -, hu⟩ | ⟨c, v, w, rfl, hv, hw⟩)
    · cases u <;> simp [stepsMatching] at hu
    · rw [stepsMatching_takes] at hv
      exact ⟨c, v, w, rfl, (h marks (c :: v) (w ++ r) (by simp)).1 hv.2, hw⟩
  · rintro ⟨c, v, w, rfl, hv, hw⟩
    refine Or.inr ⟨c, v, w, rfl, ?_, hw⟩
    rw [stepsMatching_takes]
    exact ⟨List.cons_ne_nil c v, (h marks (c :: v) (w ++ r) (by simp)).2 hv⟩

theorem agree_stepsPlus (h : ∀ marks, Agree b cs (next marks) p.matching) (marks : Marks) :
    Agree b cs (stepsPlus greedy p next marks) (p.matching.rep 1 none) := by
  rintro u r rfl
  unfold stepsPlus
  rw [stepsMatching_andThen, Matching.rep_one_none_iff, todoMatching_singleton]
  refine or_congr ⟨?_, ?_⟩ ⟨?_, ?_⟩
  · rintro ⟨m, hdone, hu⟩
    obtain rfl := stepsMatching_done.1 hu
    exact ⟨rfl, (h marks [] r rfl).1 ⟨m, hdone⟩⟩
  · rintro ⟨rfl, hr⟩
    obtain ⟨m, hdone⟩ := (h marks [] r rfl).2 hr
    exact ⟨m, hdone, stepsMatching_done.2 rfl⟩
  · rintro ⟨c, v, w, rfl, hv, hw⟩
    exact ⟨c, v, w, rfl, (h marks (c :: v) (w ++ r) (by simp)).1 hv, hw⟩
  · rintro ⟨c, v, w, rfl, hv, hw⟩
    exact ⟨c, v, w, rfl, (h marks (c :: v) (w ++ r) (by simp)).2 hv, hw⟩

theorem agree_stepsStar (h : ∀ marks, Agree b cs (next marks) p.matching) (marks : Marks) :
    Agree b cs (stepsStar greedy p next marks) (p.matching.rep 0 none) := by
  rintro u r rfl
  unfold stepsStar
  rw [stepsMatching_either, stepsMatching_done, agree_stepsPlus h marks u r rfl,
    Matching.rep_one_none_iff, Matching.rep_zero_none_iff]
  constructor
  · rintro ((⟨rfl, -⟩ | hu) | rfl)
    · exact Or.inl rfl
    · exact Or.inr hu
    · exact Or.inl rfl
  · rintro (rfl | hu)
    · exact Or.inr rfl
    · exact Or.inl (Or.inr hu)

theorem agree_stepsUpTo (h : ∀ marks, Agree b cs (next marks) p.matching) (n : Nat)
    (marks : Marks) :
    Agree b cs (stepsUpTo greedy p next n marks) (p.matching.rep 0 (some n)) := by
  induction n generalizing marks with
  | zero =>
    rintro u r rfl
    rw [stepsUpTo, stepsMatching_done, Matching.rep_zero_iff]
    refine ⟨Or.inl, ?_⟩
    rintro (hu | ⟨n, hn, -⟩)
    · exact hu
    · exact absurd (hn 0 rfl) (Nat.not_succ_le_zero n)
  | succ n ih =>
    rintro u r rfl
    have hseq : Agree b (u ++ r) (andThen (next marks) [.pattern (.rep greedy 0 (some n) p)]
        (stepsUpTo greedy p next n)) (p.matching.seq (p.matching.rep 0 (some n))) := by
      have := (h marks).andThen [.pattern (.rep greedy 0 (some n) p)] (stepsUpTo greedy p next n)
        (by rw [todoMatching_singleton]; exact ih)
      rwa [todoMatching_singleton] at this
    rw [stepsUpTo, stepsMatching_either, stepsMatching_done, hseq u r rfl, Matching.rep_zero_iff,
      or_comm]
    refine or_congr_right ⟨?_, ?_⟩
    · rintro ⟨v, w, rfl, hv, k, -, hk, hw⟩
      have := hk n rfl
      exact ⟨k, fun m hm => by obtain rfl := Option.some.inj hm; omega, v, w, rfl, hv, hw⟩
    · rintro ⟨k, hk, v, w, rfl, hv, hw⟩
      have := hk (n + 1) rfl
      exact ⟨v, w, rfl, hv, k, Nat.zero_le k,
        fun m hm => by obtain rfl := Option.some.inj hm; omega, hw⟩

/-- `n` copies before what `last` does : `M k` is what `k` of them and `last` match. -/
theorem agree_stepsExactly {rest : Nat → Pattern} {last : Marks → List Step} {M : Nat → Matching}
    (h : ∀ marks, Agree b cs (next marks) A) (hrest : ∀ k, (rest k).matching = M k)
    (hM : ∀ k, M (k + 1) = A.seq (M k)) (hlast : ∀ marks, Agree b cs (last marks) (M 0)) (n : Nat)
    (marks : Marks) : Agree b cs (stepsExactly next rest last n marks) (M n) := by
  induction n generalizing marks with
  | zero => exact hlast marks
  | succ n ih =>
    have hn : todoMatching [.pattern (rest n)] = M n :=
      (todoMatching_singleton _).trans (hrest n)
    rw [hM, ← hn]
    exact (h marks).andThen _ _ (hn.symm ▸ ih)

/-- A repetition takes the steps of what it repeats, as often as it has to and may. -/
theorem agree_stepsRep (h : ∀ marks, Agree b cs (next marks) p.matching) (least : Nat)
    (most : Option Nat) (marks : Marks) :
    Agree b cs (stepsRep greedy p next least most marks) (p.matching.rep least most) := by
  cases most with
  | none =>
    cases least with
    | zero => exact agree_stepsStar h marks
    | succ n =>
      exact agree_stepsExactly (M := fun k => p.matching.rep (k + 1) none) h (fun _ => rfl)
        (fun k => Matching.rep_succ (k + 1) none) (agree_stepsPlus h) n marks
  | some most =>
    have hM : ∀ k, p.matching.rep (k + 1) (some (k + 1 + (most - least))) =
        p.matching.seq (p.matching.rep k (some (k + (most - least)))) := by
      intro k
      rw [← Matching.rep_succ, Option.map_some, Nat.add_right_comm]
    have hlast : ∀ marks, Agree b cs (stepsUpTo greedy p next (most - least) marks)
        (p.matching.rep 0 (some (0 + (most - least)))) := by
      rw [Nat.zero_add]
      exact agree_stepsUpTo h _
    have hmost : p.matching.rep least (some most) =
        p.matching.rep least (some (least + (most - least))) := by
      have : max least most = max least (least + (most - least)) := by omega
      funext b u r
      simp only [Matching.rep, Option.mem_some_iff, forall_eq', this]
    rw [hmost]
    exact agree_stepsExactly (M := fun k => p.matching.rep k (some (k + (most - least)))) h
      (fun _ => rfl) hM hlast least marks

end Repetition

/-! ## Patterns -/

/-- The steps of a pattern lead on to what it matches. -/
theorem Pattern.agree_steps (p : Pattern) (b : Option Char) (cs : List Char) (place : Nat)
    (marks : Marks) : Agree b cs (p.steps ⟨b, cs.head?⟩ place marks) p.matching := by
  induction p generalizing marks with
  | empty => exact agree_done marks
  | set s =>
    rintro u r rfl
    rw [Pattern.steps, Pattern.matching]
    cases u with
    | nil => simp [stepsMatching]
    | cons c v =>
      simp only [stepsMatching, List.mem_singleton, Step.take.injEq]
      constructor
      · rintro ⟨_, _, _, ⟨rfl, rfl, rfl⟩, hc, rfl⟩
        exact ⟨c, rfl, hc⟩
      · rintro ⟨_, heq, hc⟩
        obtain ⟨rfl, rfl⟩ := List.cons.inj heq
        exact ⟨s, [], marks, ⟨rfl, rfl, rfl⟩, hc, rfl⟩
  | look l =>
    rintro u r rfl
    rw [Pattern.steps, Pattern.matching]
    split
    · next hl =>
      rw [stepsMatching_done]
      refine ⟨?_, fun h => h.1⟩
      rintro rfl
      exact ⟨rfl, hl⟩
    · next hl =>
      refine iff_of_false ?_ ?_
      · cases u <;> simp [stepsMatching]
      · rintro ⟨rfl, h⟩
        exact hl h
  | cat p q ihp ihq =>
    have := (ihp marks).andThen [.pattern q] (q.steps ⟨b, cs.head?⟩ place)
      (by rw [todoMatching_singleton]; exact ihq)
    rwa [todoMatching_singleton] at this
  | alt p q ihp ihq =>
    intro u r hcs
    rw [Pattern.steps, stepsMatching_firstDone, stepsMatching_append, ihp marks u r hcs,
      ihq marks u r hcs]
    rfl
  | group i p ih =>
    have h := (ih (marks.put (2 * i) place)).andThen [.close i]
      (fun marks => [.done (marks.put (2 * i + 1) place)])
      (by rw [todoMatching_singleton]; exact fun marks => agree_done _)
    have hseq : p.matching.seq (todoMatching [.close i]) = p.matching := by
      rw [todoMatching_singleton]
      exact todoMatching_singleton (.pattern p)
    rwa [hseq] at h
  | rep greedy least most p ih => exact agree_stepsRep ih least most marks

/-- The steps of something that is left to do match what it stands for. -/
theorem Todo.agree_steps (t : Todo) (b : Option Char) (cs : List Char) (place : Nat)
    (marks : Marks) : Agree b cs (t.steps ⟨b, cs.head?⟩ place marks) t.matching := by
  cases t with
  | pattern p => exact p.agree_steps b cs place marks
  | close i => exact agree_done _
  | again greedy p => exact agree_stepsAgain (p.agree_steps b cs place) marks

theorem agree_follow (todo : List Todo) (b : Option Char) (cs : List Char) (place : Nat)
    (marks : Marks) : Agree b cs (follow ⟨b, cs.head?⟩ place todo marks) (todoMatching todo) := by
  induction todo generalizing marks with
  | nil => exact agree_done marks
  | cons t ts ih => exact (t.agree_steps b cs place marks).andThen ts _ ih

/-! ## Runs -/

/-- Threads that do the same are found again by what they do. -/
theorem exists_todo_distinct {threads : List Thread} {todo : List Todo} :
    (∃ t ∈ distinct threads, t.todo = todo) ↔ ∃ t ∈ threads, t.todo = todo := by
  fun_induction distinct threads with
  | case1 => rfl
  | case2 t ts ih =>
    by_cases ht : t.todo = todo
    · exact iff_of_true ⟨t, List.mem_cons_self .., ht⟩ ⟨t, List.mem_cons_self .., ht⟩
    · simp only [List.mem_cons, exists_eq_or_imp, or_iff_right ht, ← ih, List.mem_filter,
        decide_eq_true_eq]
      constructor
      · rintro ⟨x, ⟨hx, -⟩, rfl⟩
        exact ⟨x, hx, rfl⟩
      · rintro ⟨x, hx, rfl⟩
        exact ⟨x, ⟨hx, fun h => ht h.symm⟩, rfl⟩

/-- A thread goes on from each step that takes the next character. -/
theorem exists_todo_advance {c : Char} {todo : List Todo} :
    (∃ t ∈ advance c steps, t.todo = todo) ↔
      ∃ s marks, .take s todo marks ∈ steps ∧ s.contains c = true := by
  unfold advance
  rw [exists_todo_distinct]
  simp only [List.mem_filterMap]
  constructor
  · rintro ⟨t, ⟨step, hstep, ht⟩, rfl⟩
    cases step with
    | done marks => simp at ht
    | take s todo marks =>
      by_cases hc : s.contains c = true
      · simp only [hc, if_true, Option.some.injEq] at ht
        subst ht
        exact ⟨s, marks, hstep, hc⟩
      · simp [hc] at ht
  · rintro ⟨s, marks, hstep, hc⟩
    exact ⟨⟨todo, marks⟩, ⟨_, hstep, by simp [hc]⟩, rfl⟩

theorem isSome_untilDone : (untilDone steps).2.isSome = true ↔ ∃ marks, .done marks ∈ steps := by
  fun_induction untilDone steps with
  | case1 => simp
  | case2 marks rest => simp
  | case3 s rest hs ih =>
    cases s with
    | done marks => exact absurd rfl (hs marks)
    | take s todo marks => simp [ih]

/-- Without an end all steps are kept. -/
theorem untilDone_of_forall (h : ∀ marks, .done marks ∉ steps) : (untilDone steps).1 = steps := by
  fun_induction untilDone steps with
  | case1 => rfl
  | case2 marks rest => exact absurd (List.mem_cons_self ..) (h marks)
  | case3 s rest hs ih =>
    exact congrArg (s :: ·) (ih fun marks hm => h marks (List.mem_cons_of_mem _ hm))

/-- The steps of all threads lead on to what one of them matches. -/
theorem stepsMatching_threads (threads : List Thread) (place : Nat) (b : Option Char)
    (u r : List Char) :
    stepsMatching (threads.flatMap fun t => follow ⟨b, (u ++ r).head?⟩ place t.todo t.marks)
        b u r ↔
      ∃ t ∈ threads, todoMatching t.todo b u r := by
  induction threads with
  | nil => cases u <;> simp [stepsMatching]
  | cons t ts ih =>
    rw [List.flatMap_cons, stepsMatching_append, ih,
      agree_follow t.todo b _ place t.marks u r rfl]
    simp

/-- A thread matches a piece that starts here : the empty one, or one that its steps go on to. -/
theorem exists_thread_cons_iff {threads : List Thread} {place : Nat} {c : Char} {steps : List Step}
    (hsteps : (threads.flatMap fun t => follow ⟨b, some c⟩ place t.todo t.marks) = steps) :
    (∃ t ∈ threads, ∃ u r, c :: cs = u ++ r ∧ todoMatching t.todo b u r) ↔
      (∃ marks, .done marks ∈ steps) ∨
        ∃ u r, cs = u ++ r ∧ stepsMatching steps b (c :: u) r := by
  subst hsteps
  constructor
  · rintro ⟨t, ht, u, r, heq, h⟩
    have hu := (stepsMatching_threads threads place b u r).2 ⟨t, ht, h⟩
    rw [← heq] at hu
    cases u with
    | nil => exact Or.inl hu
    | cons d u =>
      obtain ⟨rfl, rfl⟩ := List.cons.inj heq
      exact Or.inr ⟨u, r, rfl, hu⟩
  · rintro (hdone | ⟨u, r, rfl, h⟩)
    · obtain ⟨t, ht, h⟩ := (stepsMatching_threads threads place b [] (c :: cs)).1 hdone
      exact ⟨t, ht, [], c :: cs, rfl, h⟩
    · obtain ⟨t, ht, h⟩ := (stepsMatching_threads threads place b (c :: u) r).1 h
      exact ⟨t, ht, c :: u, r, rfl, h⟩

/-- The threads behind a character match what the steps lead on to behind it. -/
theorem exists_mem_advance_iff {c : Char} {steps : List Step} :
    (∃ t ∈ advance c steps, ∃ u r, cs = u ++ r ∧ todoMatching t.todo (some c) u r) ↔
      ∃ u r, cs = u ++ r ∧ stepsMatching steps b (c :: u) r := by
  constructor
  · rintro ⟨t, ht, u, r, rfl, h⟩
    obtain ⟨s, marks, hstep, hc⟩ := exists_todo_advance.1 ⟨t, ht, rfl⟩
    exact ⟨u, r, rfl, s, t.todo, marks, hstep, hc, h⟩
  · rintro ⟨u, r, rfl, s, todo, marks, hstep, hc, h⟩
    obtain ⟨t, ht, rfl⟩ := exists_todo_advance.2 ⟨s, marks, hstep, hc⟩
    exact ⟨t, ht, u, r, rfl, h⟩

/-- A run over a text finds something if it had before, or if one of its threads matches a piece
that starts here. -/
theorem isSome_runThreads_iff {threads : List Thread} {place : Nat} {best : Option Found} :
    (runThreads threads b place best cs).isSome = true ↔
      best.isSome = true ∨ ∃ t ∈ threads, ∃ u r, cs = u ++ r ∧ todoMatching t.todo b u r := by
  induction cs generalizing threads b place best with
  | nil =>
    have hnil := stepsMatching_threads threads place b [] []
    have hsplit : (∃ t ∈ threads, ∃ u r, [] = u ++ r ∧ todoMatching t.todo b u r) ↔
        ∃ t ∈ threads, todoMatching t.todo b [] [] := by
      refine exists_congr fun t => and_congr_right fun _ => ⟨?_, fun h => ⟨[], [], rfl, h⟩⟩
      rintro ⟨u, r, heq, h⟩
      obtain ⟨rfl, rfl⟩ := List.append_eq_nil_iff.1 heq.symm
      exact h
    rw [hsplit, ← hnil, stepsMatching, ← isSome_untilDone]
    simp only [runThreads, List.nil_append, List.head?_nil]
    split
    · next hm => simp [hm]
    · next hm => simp [hm]
  | cons c cs ih =>
    simp only [runThreads]
    generalize hsteps : threads.flatMap (fun t => follow ⟨b, some c⟩ place t.todo t.marks) = steps
    rw [exists_thread_cons_iff hsteps]
    by_cases hdone : ∃ marks, .done marks ∈ steps
    · -- a match ends here, so the run has one
      obtain ⟨marks, hmarks⟩ := Option.isSome_iff_exists.1 (isSome_untilDone.2 hdone)
      rw [hmarks]
      refine iff_of_true ?_ (Or.inr (Or.inl hdone))
      dsimp only
      split
      · rfl
      · exact ih.2 (Or.inl rfl)
    · have hnone : (untilDone steps).2 = none := by
        rw [← Option.not_isSome_iff_eq_none, isSome_untilDone]
        exact hdone
      have hfst : (untilDone steps).1 = steps :=
        untilDone_of_forall fun marks hm => hdone ⟨marks, hm⟩
      rw [hnone, hfst, or_iff_right hdone, ← exists_mem_advance_iff]
      dsimp only
      split
      · next hempty =>
        rw [List.isEmpty_iff] at hempty
        simp [hempty]
      · exact ih

/-- The matcher finds a match from here on if there is one. -/
theorem Pattern.isSome_matchHere_iff (p : Pattern) (place : Nat) :
    (p.matchHere b place cs).isSome = true ↔ ∃ u r, cs = u ++ r ∧ p.matching b u r := by
  rw [Pattern.matchHere, isSome_runThreads_iff]
  simp [todoMatching_singleton, Todo.matching]

/-- The search finds a match anywhere in the text if there is one. -/
theorem Pattern.isSome_search_iff (p : Pattern) (place : Nat) :
    (p.search b place cs).isSome = true ↔
      ∃ before u after, cs = before ++ u ++ after ∧ p.matching (lastOf b before) u after := by
  induction cs generalizing b place with
  | nil =>
    rw [Pattern.search, Option.isSome_map, Pattern.isSome_matchHere_iff]
    constructor
    · rintro ⟨u, r, heq, h⟩
      exact ⟨[], u, r, heq, h⟩
    · rintro ⟨before, u, after, heq, h⟩
      obtain ⟨hu, rfl⟩ := List.append_eq_nil_iff.1 heq.symm
      obtain ⟨rfl, rfl⟩ := List.append_eq_nil_iff.1 hu
      exact ⟨[], [], rfl, h⟩
  | cons c cs ih =>
    rw [Pattern.search]
    split
    · next found hfound =>
      refine iff_of_true rfl ?_
      obtain ⟨u, r, heq, h⟩ :=
        (p.isSome_matchHere_iff place).1 (Option.isSome_iff_exists.2 ⟨_, hfound⟩)
      exact ⟨[], u, r, heq, h⟩
    · next hnone =>
      rw [ih]
      constructor
      · rintro ⟨before, u, after, rfl, h⟩
        exact ⟨c :: before, u, after, rfl, h⟩
      · rintro ⟨before, u, after, heq, h⟩
        cases before with
        | nil =>
          have hsome : (p.matchHere b place (c :: cs)).isSome = true :=
            (p.isSome_matchHere_iff place).2 ⟨u, after, heq, h⟩
          rw [hnone] at hsome
          cases hsome
        | cons d before =>
          obtain ⟨rfl, rfl⟩ := List.cons.inj heq
          exact ⟨before, u, after, rfl, h⟩

/-- A pattern is found in a text exactly if a piece of the text matches it. -/
theorem Pattern.isMatch_iff {p : Pattern} {text : List Char} :
    p.isMatch text = true ↔
      ∃ before u after, text = before ++ u ++ after ∧ p.matching (lastOf none before) u after :=
  p.isSome_search_iff 0

end SeriesRender.Regex
