import SeriesRender.Proofs.Target.Grammar
import SeriesRender.Proofs.Target.Occurrence

/-!
# Where syntax errors point

`PointsAt text error` says where a syntax error may stand in a text, and what it may say there : a
text without tokens at its start, a missing parenthesis, where more are opened than closed, at its
end, most faults at the token that they blame (`Fault.Blames`), an unterminated string at its
opening quote, an unbalanced bracket at that bracket, which has no partner in its word (`Unpaired`).
`parse_error_pointsAt` says that every error of the parser points at such a place, and carries the
target as it was given. All these places are between two characters.

Faults of the lexer are found behind a part of the text that has tokens (`StuckBehind`). A scan for
a word keeps the brackets that what has been read leaves open (`LeavesOpen`); that a bracket has no
partner is a matter of counting, since no beginning of a balanced text has more closing brackets
than opening ones (`Balanced.countP_le`).
-/

namespace SeriesRender.Target

open Text

/-! ## Brackets without a partner -/

/-- A closing bracket or brace. -/
def isCloseBracket (c : Char) : Bool :=
  (opener? c).isSome

/-- A bracket has no partner. What could be one, before or behind it, is in another word : a
character that ends a word stands between them. -/
structure Unpaired (before : List Char) (c : Char) (after : List Char) : Prop where
  bracket : c ∈ ['{', '}', '[', ']']
  no_opener : ∀ u o v, before = u ++ o :: v → Pairs o c → Balanced v →
    ∃ d ∈ v, isDelimiter d = true ∧ d ≠ ','
  no_closer : ∀ u d v, after = u ++ d :: v → Pairs c d → Balanced u →
    ∃ e ∈ u, isDelimiter e = true ∧ e ≠ ','

theorem isCloseBracket_of_pairs {o c : Char} (h : Pairs o c) : isCloseBracket c = true := by
  rw [isCloseBracket, opener?_eq_some_iff.2 h]
  rfl

theorem eq_of_isOpenBracket {o : Char} (h : isOpenBracket o = true) : o = '{' ∨ o = '[' := by
  simpa [isOpenBracket] using h

/-- No bracket is both an opening and a closing one. -/
theorem isCloseBracket_eq_false {o : Char} (h : isOpenBracket o = true) :
    isCloseBracket o = false := by
  rcases eq_of_isOpenBracket h with rfl | rfl <;> rfl

/-- What the two brackets of a pair add to the numbers of opening and closing ones. -/
theorem countP_cons_of_pairs {o c : Char} (h : Pairs o c) (cs : List Char) :
    (o :: cs).countP isOpenBracket = cs.countP isOpenBracket + 1 ∧
    (o :: cs).countP isCloseBracket = cs.countP isCloseBracket ∧
    (c :: cs).countP isOpenBracket = cs.countP isOpenBracket ∧
    (c :: cs).countP isCloseBracket = cs.countP isCloseBracket + 1 := by
  have ho := isOpenBracket_of_pairs h
  simp [ho, isCloseBracket_eq_false ho, isOpenBracket_eq_false_of_pairs h,
    isCloseBracket_of_pairs h]

namespace Balanced

/-- A balanced text has as many closing brackets as opening ones. -/
theorem countP_eq {cs : List Char} (h : Balanced cs) :
    cs.countP isCloseBracket = cs.countP isOpenBracket := by
  induction h with
  | nil => rfl
  | @plain c cs hc _ ih =>
    obtain ⟨hopen, hclose⟩ := of_not_mem_brackets hc
    simp [isCloseBracket, hopen, hclose, ih]
  | @pair o c inner rest hp _ _ ihinner ihrest =>
    obtain ⟨hopen, hopen', hclose, hclose'⟩ := countP_cons_of_pairs hp rest
    obtain ⟨ho, ho', -, -⟩ := countP_cons_of_pairs hp (inner ++ c :: rest)
    rw [List.countP_append] at ho ho'
    omega

/-- No beginning of a balanced text has more closing brackets than opening ones. -/
theorem countP_le {cs : List Char} (h : Balanced cs) : ∀ {u v : List Char}, cs = u ++ v →
    u.countP isCloseBracket ≤ u.countP isOpenBracket := by
  induction h with
  | nil =>
    intro u v huv
    obtain ⟨rfl, -⟩ := List.append_eq_nil_iff.1 huv.symm
    exact Nat.le_refl _
  | @plain c cs hc _ ih =>
    intro u v huv
    cases u with
    | nil => exact Nat.le_refl _
    | cons d u =>
      obtain ⟨rfl, hcs⟩ := List.cons.inj huv
      obtain ⟨hopen, hclose⟩ := of_not_mem_brackets hc
      simpa [isCloseBracket, hopen, hclose] using ih hcs
  | @pair o c inner rest hp hinner _ ihinner ihrest =>
    intro u v huv
    cases u with
    | nil => exact Nat.le_refl _
    | cons d u =>
      obtain ⟨rfl, hcs⟩ := List.cons.inj huv
      obtain ⟨ho, ho', -, -⟩ := countP_cons_of_pairs hp u
      rcases List.append_eq_append_iff.1 hcs with ⟨w, rfl, hrest⟩ | ⟨w, hw, -⟩
      · have hle := hinner.countP_eq
        rw [List.countP_append] at ho ho'
        cases w with
        | nil =>
          simp only [List.countP_nil] at ho ho'
          omega
        | cons e w =>
          obtain ⟨rfl, htail⟩ := List.cons.inj hrest
          obtain ⟨-, -, hc, hc'⟩ := countP_cons_of_pairs hp w
          have := ihrest htail
          omega
      · have := ihinner hw
        omega

/-- What follows an opening bracket in a balanced text begins no balanced text : the bracket is
closed in it. -/
theorem not_balanced {u v w : List Char} {o : Char} (h : Balanced (u ++ o :: v))
    (ho : isOpenBracket o = true) : ¬Balanced (v ++ w) := by
  intro hv
  have htotal := h.countP_eq
  have hu := h.countP_le rfl
  have hv := hv.countP_le rfl
  simp only [List.countP_append, List.countP_cons, ho, isCloseBracket_eq_false ho, if_true,
    Bool.false_eq_true, if_false] at htotal
  omega

/-- A balanced text closes nothing behind a balanced beginning. -/
theorem not_close {u v : List Char} {c : Char} (h : Balanced (u ++ c :: v)) (hu : Balanced u) :
    isCloseBracket c = false := by
  rw [← Bool.not_eq_true]
  intro hc
  have hopen : isOpenBracket c = false := by
    rw [← Bool.not_eq_true]
    intro ho
    exact absurd (hc.symm.trans (isCloseBracket_eq_false ho)) (by decide)
  have hle := h.countP_le (u := u ++ [c]) (v := v) (by simp)
  have heq := hu.countP_eq
  simp only [List.countP_append, List.countP_cons, List.countP_nil, hopen, hc, if_true,
    Bool.false_eq_true, if_false] at hle
  omega

end Balanced

/-- A bracket that is still open where its word ends has no partner. -/
theorem unpaired_open {o : Char} (ho : isOpenBracket o = true) (before : List Char)
    {inner rest : List Char} (hinner : Balanced inner)
    (hrest : ∀ c ∈ rest.head?, isDelimiter c = true ∧ c ≠ ',') :
    Unpaired before o (inner ++ rest) where
  bracket := by rcases eq_of_isOpenBracket ho with rfl | rfl <;> simp
  no_opener u p v _ hp _ :=
    absurd (ho.symm.trans (isOpenBracket_eq_false_of_pairs hp)) (by decide)
  no_closer u d v heq hp hu := by
    -- a closing bracket ends no word
    have hnot : ∀ {ds}, rest ≠ d :: ds := by
      rintro ds rfl
      have := (hrest d rfl).1
      rcases hp with ⟨-, rfl⟩ | ⟨-, rfl⟩ <;> exact absurd this (by decide)
    rcases List.append_eq_append_iff.1 heq with ⟨w, rfl, hw⟩ | ⟨w, rfl, hw⟩
    · cases w with
      | nil => exact absurd hw hnot
      | cons e w =>
        have hend := hrest e (by rw [hw]; rfl)
        exact ⟨e, by simp, hend⟩
    · cases w with
      | nil => exact absurd hw.symm hnot
      | cons e w =>
        obtain ⟨rfl, -⟩ := List.cons.inj hw
        exact absurd ((isCloseBracket_of_pairs hp).symm.trans (hinner.not_close hu)) (by decide)

/-- A closing bracket has no partner where what it could close is closed already. -/
theorem unpaired_close {c : Char} {before : List Char} (hc : isCloseBracket c = true)
    (hopen : ∀ u o v, before = u ++ o :: v → Pairs o c → ¬Balanced v) (after : List Char) :
    Unpaired before c after where
  bracket := by
    rw [isCloseBracket, Option.isSome_iff_exists] at hc
    obtain ⟨o, ho⟩ := hc
    rcases opener?_eq_some_iff.1 ho with ⟨-, rfl⟩ | ⟨-, rfl⟩ <;> simp
  no_opener u o v heq hp hv := absurd hv (hopen u o v heq hp)
  no_closer u d v _ hp _ :=
    absurd (hc.symm.trans (isCloseBracket_eq_false (isOpenBracket_of_pairs hp))) (by decide)

/-! ## Words that cannot be read -/

/-- What has been read of a word that starts at offset `start` leaves these brackets open, innermost
first, each with its offset. -/
inductive LeavesOpen (start : Nat) : List Char → List (Char × Nat) → Prop
  | none {u : List Char} : Balanced u → LeavesOpen start u []
  | bracket {u v : List Char} {o : Char} {opened : List (Char × Nat)} :
      LeavesOpen start u opened → isOpenBracket o = true → Balanced v →
      LeavesOpen start (u ++ o :: v) ((o, start + byteLength u) :: opened)

theorem LeavesOpen.append {start : Nat} {u v : List Char} {opened : List (Char × Nat)}
    (h : LeavesOpen start u opened) (hv : Balanced v) : LeavesOpen start (u ++ v) opened := by
  cases h with
  | none hu => exact .none (hu.append hv)
  | @bracket u w o opened hu ho hw =>
    have := LeavesOpen.bracket hu ho (hw.append hv)
    simpa using this

/-- A scan for a word fails at a bracket without a partner. -/
theorem unpaired_of_scanWord {start : Nat} {opened : List (Char × Nat)} {pos : Nat}
    {cs : List Char} {e : SyntaxError} (h : scanWord opened pos cs = .error e) {u : List Char}
    (hu : LeavesOpen start u opened) (hpos : pos = start + byteLength u) :
    ∃ v c w, u ++ cs = v ++ c :: w ∧ e = ⟨start + byteLength v, .unbalanced c⟩ ∧
      Unpaired v c w := by
  fun_induction scanWord opened pos cs generalizing u with
  | case1 => cases h
  | case2 pos o p outer =>
    obtain rfl := Except.error.inj h
    cases hu with
    | @bracket v w _ _ _ ho hw =>
      have hunpaired : Unpaired v o (w ++ []) := unpaired_open ho v hw (by simp)
      rw [List.append_nil] at hunpaired
      exact ⟨v, o, w, by simp, rfl, hunpaired⟩
  | case3 => cases h
  | case4 pos c cs o p outer hend =>
    obtain rfl := Except.error.inj h
    cases hu with
    | @bracket v w _ _ _ ho hw =>
      have hc : isDelimiter c = true ∧ c ≠ ',' := by simpa [endsWord] using hend
      exact ⟨v, o, w ++ c :: cs, by simp, rfl, unpaired_open ho v hw (by simpa using hc)⟩
  | case5 opened pos c cs _ hopen ih =>
    subst hpos
    have := ih (map_eq_error_iff.1 h) (.bracket hu hopen .nil)
      (by simp only [byteLength_append, byteLength_cons, byteLength_nil]; omega)
    simpa using this
  | case6 opened pos c cs _ hopen hclose ih =>
    have hc : Balanced [c] := .plain (not_mem_brackets (by simpa using hopen) hclose) .nil
    have := ih (map_eq_error_iff.1 h) (hu.append hc)
      (by simp only [byteLength_append, byteLength_cons, byteLength_nil]; omega)
    simpa using this
  | case7 pos c cs _ o hclose =>
    obtain rfl := Except.error.inj h
    cases hu with
    | none hu =>
      refine ⟨u, c, cs, rfl, by rw [hpos], unpaired_close (by rw [isCloseBracket, hclose]; rfl)
        (fun x o v heq hp hv => ?_) cs⟩
      subst heq
      have := hu.not_balanced (isOpenBracket_of_pairs hp) (w := [])
      rw [List.append_nil] at this
      exact this hv
  | case8 pos c cs _ b p outer _ hclose ih =>
    cases hu with
    | @bracket v w _ _ hv ho hw =>
      have hpair : Balanced (b :: (w ++ c :: [])) := .pair (opener?_eq_some_iff.1 hclose) hw .nil
      have := ih (map_eq_error_iff.1 h) (hv.append hpair)
        (by simp only [byteLength_append, byteLength_cons, byteLength_nil] at hpos ⊢; omega)
      simpa using this
  | case9 pos c cs _ o hclose b p outer hne =>
    obtain rfl := Except.error.inj h
    cases hu with
    | @bracket v w _ _ _ hb hw =>
      refine ⟨_, c, cs, rfl, by rw [hpos], unpaired_close (by rw [isCloseBracket, hclose]; rfl)
        (fun x d y heq hp hy => ?_) cs⟩
      obtain rfl : o = d := Option.some.inj (hclose.symm.trans (opener?_eq_some_iff.2 hp))
      -- the innermost bracket still open would be this partner
      rcases List.append_eq_append_iff.1 heq with ⟨z, rfl, hz⟩ | ⟨z, rfl, hz⟩
      · cases z with
        | nil => exact hne (List.cons.inj hz).1
        | cons e z =>
          obtain ⟨rfl, rfl⟩ := List.cons.inj hz
          have := hw.not_balanced (isOpenBracket_of_pairs hp) (w := [])
          rw [List.append_nil] at this
          exact this hy
      · cases z with
        | nil => exact hne (List.cons.inj hz).1.symm
        | cons e z =>
          obtain ⟨rfl, rfl⟩ := List.cons.inj hz
          have := hy.not_balanced hb (w := [])
          rw [List.append_nil] at this
          exact this hw

/-- A bracket opened in a lexeme is closed in it, or the lexeme is a string and ends behind it. -/
theorem Lexeme.balanced_or {u v rest : List Char} {o : Char} {s : Symbol}
    (h : Lexeme (u ++ o :: v) s rest) (ho : isOpenBracket o = true) :
    Balanced (u ++ o :: v) ∨ ∃ d ∈ v, isDelimiter d = true ∧ d ≠ ',' := by
  generalize hpiece : u ++ o :: v = piece at h
  cases h with
  | @mark c _ _ hm =>
    have hmem : o ∈ [c] := hpiece ▸ by simp
    obtain rfl := List.mem_singleton.1 hmem
    rcases eq_of_isOpenBracket ho with rfl | rfl <;> cases hm
  | @quoted quote body _ hq _ =>
    refine Or.inr ⟨quote, ?_, by simp [isDelimiter, hq], ?_⟩
    · rcases List.eq_nil_or_concat v with rfl | ⟨v, d, rfl⟩
      · have hsplit : u ++ [o] = (quote :: body) ++ [quote] := hpiece
        obtain ⟨-, hlast⟩ := List.append_inj' hsplit rfl
        obtain rfl := List.singleton_inj.1 hlast
        rcases eq_of_isOpenBracket ho with rfl | rfl <;> exact absurd hq (by decide)
      · have hsplit : (u ++ o :: v) ++ [d] = (quote :: body) ++ [quote] := by simpa using hpiece
        obtain ⟨-, hlast⟩ := List.append_inj' hsplit rfl
        rw [List.singleton_inj.1 hlast]
        simp
    · rcases eq_of_isQuote hq with rfl | rfl <;> decide
  | word _ hn _ => exact Or.inl (balanced_of_nests hn)

/-- In a text that has tokens, a bracket is closed in its word, or ends in its string. -/
theorem exists_delimiter_of_lexes {pos : Nat} {cs : List Char} {ts : List Token}
    (h : Lexes pos cs ts) : ∀ {u v w : List Char} {o : Char}, cs = u ++ o :: v →
      isOpenBracket o = true → Balanced (v ++ w) → ∃ d ∈ v, isDelimiter d = true ∧ d ≠ ',' := by
  induction h using Lexes.inductionOn with
  | done =>
    intro u v w o hcs
    simp at hcs
  | @blank pos c cs ts hc _ ih =>
    intro u v w o hcs ho hv
    cases u with
    | nil =>
      obtain ⟨rfl, -⟩ := List.cons.inj hcs
      rcases eq_of_isOpenBracket ho with rfl | rfl <;> exact absurd hc (by decide)
    | cons d u => exact ih (List.cons.inj hcs).2 ho hv
  | @lexeme pos piece s rest ts hpiece _ ih =>
    intro u v w o hcs ho hv
    rcases List.append_eq_append_iff.1 hcs with ⟨z, rfl, hz⟩ | ⟨z, rfl, hz⟩
    · exact ih hz ho hv
    · cases z with
      | nil => exact ih (u := []) hz.symm ho hv
      | cons d z =>
        rw [List.cons_append] at hz
        obtain ⟨rfl, rfl⟩ := List.cons.inj hz
        rcases hpiece.balanced_or ho with hpiece | ⟨e, he, hend⟩
        · rw [List.append_assoc] at hv
          exact absurd hv (hpiece.not_balanced ho)
        · exact ⟨e, List.mem_append_left _ he, hend⟩

/-- Where a word begins, the tokens before it change nothing. -/
theorem Unpaired.prepend {pos : Nat} {before u v : List Char} {c : Char} {ts : List Token}
    (h : Unpaired u c v) (hbefore : Lexes pos before ts) : Unpaired (before ++ u) c v where
  bracket := h.bracket
  no_closer := h.no_closer
  no_opener x o y heq hp hy := by
    rcases List.append_eq_append_iff.1 heq with ⟨z, rfl, hz⟩ | ⟨z, rfl, hz⟩
    · exact h.no_opener z o y hz hp hy
    · cases z with
      | nil => exact h.no_opener [] o y hz.symm hp hy
      | cons d z =>
        obtain ⟨rfl, rfl⟩ := List.cons.inj hz
        obtain ⟨e, he, hend⟩ := exists_delimiter_of_lexes hbefore rfl (isOpenBracket_of_pairs hp) hy
        exact ⟨e, List.mem_append_left _ he, hend⟩

/-! ## Texts that cannot be read -/

/-- The text begins with what the lexer cannot read : a string without an end, or a word with a
bracket without a partner. `pos` is the offset of the text. -/
inductive Stuck (pos : Nat) : List Char → SyntaxError → Prop
  | quote {quote : Char} {cs : List Char} : isQuote quote = true → splitQuoted quote cs = none →
      Stuck pos (quote :: cs) ⟨pos, .unterminatedString⟩
  | bracket {u v : List Char} {c : Char} : Unpaired u c v →
      Stuck pos (u ++ c :: v) ⟨pos + byteLength u, .unbalanced c⟩

/-- A token in front does not change an error. -/
theorem cons_eq_error_iff {s : Symbol} {pos : Nat} {r : Except SyntaxError (List Token)}
    {e : SyntaxError} : cons s pos r = .error e ↔ r = .error e :=
  map_eq_error_iff

/-- The text begins with a part that has tokens, and behind it with what the lexer cannot read. -/
def StuckBehind (pos : Nat) (cs : List Char) (e : SyntaxError) : Prop :=
  ∃ before ts after, cs = before ++ after ∧ Lexes pos before ts ∧
    Stuck (pos + byteLength before) after e

namespace StuckBehind

variable {pos : Nat} {cs : List Char} {e : SyntaxError}

/-- A text that is stuck at once is stuck behind nothing. -/
theorem here (h : Stuck pos cs e) : StuckBehind pos cs e :=
  ⟨[], [], cs, rfl, .done pos, h⟩

theorem blank {c : Char} (hc : isBlank c = true) (h : StuckBehind (pos + c.utf8Size) cs e) :
    StuckBehind pos (c :: cs) e := by
  obtain ⟨before, ts, after, rfl, hbefore, hafter⟩ := h
  refine ⟨c :: before, ts, after, rfl, .blank hc hbefore, ?_⟩
  rwa [byteLength_cons, ← Nat.add_assoc]

theorem lexeme {piece : List Char} {s : Symbol} (hpiece : Lexeme piece s cs)
    (h : StuckBehind (pos + byteLength piece) cs e) : StuckBehind pos (piece ++ cs) e := by
  obtain ⟨before, ts, after, rfl, hbefore, hafter⟩ := h
  -- a word that ends before the rest of the text ends at the end of its readable part as well
  have hstop : StopsWord (before ++ after) → StopsWord before := by
    cases before with
    | nil => exact fun _ => stopsWord_nil
    | cons => exact fun h => stopsWord_cons.2 (stopsWord_cons.1 h)
  refine ⟨piece ++ before, _, after, by simp, (hpiece.of_stopsWord hstop).lexes hbefore, ?_⟩
  rwa [byteLength_append, ← Nat.add_assoc]

end StuckBehind

/-- The lexer fails behind a part of the text that has tokens. -/
theorem stuckBehind_of_lexFrom {pos : Nat} {cs : List Char} {e : SyntaxError}
    (h : lexFrom pos cs = .error e) : StuckBehind pos cs e := by
  fun_induction lexFrom pos cs with
  | case1 => cases h
  | case2 pos c cs hc ih => exact .blank hc (ih h)
  | case3 pos cs _ ih => exact .lexeme (.mark (c := '(') rfl) (ih (cons_eq_error_iff.1 h))
  | case4 pos cs _ _ ih => exact .lexeme (.mark (c := ')') rfl) (ih (cons_eq_error_iff.1 h))
  | case5 pos cs _ _ _ ih => exact .lexeme (.mark (c := ',') rfl) (ih (cons_eq_error_iff.1 h))
  | case6 pos c cs _ _ _ _ hq hbody =>
    obtain rfl := Except.error.inj h
    exact .here (.quote hq hbody)
  | case7 pos c cs _ _ _ _ hq body rest hbody _ ih =>
    obtain ⟨rfl, hb⟩ := (splitQuoted_eq_some_iff (ne_backslash_of_isQuote hq)).1 hbody
    have hquoted : StuckBehind pos (c :: (body ++ [c]) ++ rest) e := by
      refine .lexeme (.quoted hq hb) ?_
      rw [byteLength_quoted hq, ← Nat.add_assoc]
      exact ih (cons_eq_error_iff.1 h)
    simpa using hquoted
  | case8 pos c cs _ _ _ _ _ e' hw =>
    obtain rfl := Except.error.inj h
    obtain ⟨v, d, w, happ, rfl, hunpaired⟩ :=
      unpaired_of_scanWord hw (.none .nil) (rfl : pos = pos + byteLength [])
    rw [show c :: cs = v ++ d :: w from happ]
    exact .here (.bracket hunpaired)
  | case9 pos c cs hb ho hc hs hq w rest hw _ ih =>
    obtain ⟨happ, hword⟩ := lexeme_of_scanWord hb ho hc hs hq hw
    rw [← happ]
    exact .lexeme hword (ih (cons_eq_error_iff.1 h))

/-! ## Where errors point -/

/-- The token that a fault is about is such a symbol. -/
def Fault.Blames : Fault → Symbol → Prop
  | .unbalanced c, s => c = ')' ∧ s = .closeParen
  | .emptyArgument, s => s = .comma ∨ s = .closeParen
  | .unexpectedParen, s => s = .openParen
  | .invalidFunctionName w, s => s = .word w
  | .tooDeep _, s => ∃ w, s = .word w
  | .expectedSeparator found, s => s = found
  | .trailing found, s => s = found
  | .unterminatedString, _ | .emptyExpression, _ | .missingParen, _ => False

/-- The error stands at the token, and says what is wrong with it. -/
def SyntaxError.Blames (e : SyntaxError) (t : Token) : Prop :=
  e.position = t.position ∧ e.fault.Blames t.symbol

/-- Where a syntax error can stand in a text. -/
inductive PointsAt (text : String) : SyntaxError → Prop
  | start : TokensOf text [] → PointsAt text ⟨0, .emptyExpression⟩
  | stop {os : List Occurrence} :
      TokensOf text os →
      (os.map Occurrence.symbol).count .closeParen < (os.map Occurrence.symbol).count .openParen →
      PointsAt text ⟨text.utf8ByteSize, .missingParen⟩
  | token {os : List Occurrence} {o : Occurrence} {e : SyntaxError} :
      TokensOf text os → o ∈ os → e.Blames o.token → PointsAt text e
  /-- What is before the quote has tokens, and nothing behind it can be the rest of a string. -/
  | quote {before after : List Char} {quote : Char} {tokens : Tokens} :
      text.toList = before ++ quote :: after → isQuote quote = true →
      lex (String.ofList before) = .ok tokens →
      (∀ body value rest, Unescapes quote body value → after ≠ body ++ quote :: rest) →
      PointsAt text ⟨byteLength before, .unterminatedString⟩
  | bracket {before after : List Char} {c : Char} :
      text.toList = before ++ c :: after → Unpaired before c after →
      PointsAt text ⟨byteLength before, .unbalanced c⟩

theorem PointsAt.exists_append {text : String} {e : SyntaxError} (h : PointsAt text e) :
    ∃ before after, text.toList = before ++ after ∧ byteLength before = e.position := by
  cases h with
  | start => exact ⟨[], text.toList, rfl, rfl⟩
  | stop =>
    refine ⟨text.toList, [], by simp, ?_⟩
    rw [← utf8ByteSize_ofList, String.ofList_toList]
  | @token os o _ hos ho hblames =>
    exact ⟨o.before, o.piece ++ o.after,
      by rw [← hos.text_eq o ho, Occurrence.text, List.append_assoc], hblames.1.symm⟩
  | quote htext => exact ⟨_, _, htext, rfl⟩
  | bracket htext => exact ⟨_, _, htext, rfl⟩

/-- An expression is missing only where there is no token at all. -/
theorem eq_nil_of_run {limit stop p : Nat} {st : State} {ts : List Token}
    (h : run limit stop st ts = .error ⟨p, .emptyExpression⟩) :
    ts = [] ∧ ∃ afterComma, st = .operand afterComma [] := by
  fun_induction run limit stop st ts with
  | case1 afterComma => exact ⟨rfl, afterComma, rfl⟩
  | case3 _ _ _ _ _ _ _ _ ih | case6 _ _ _ _ _ _ ih | case7 _ _ _ _ _ _ ih | case10 _ _ _ _ ih
  | case17 _ _ _ _ _ ih | case18 _ _ _ _ _ ih =>
    obtain ⟨-, _, hst⟩ := ih h
    cases hst
  | case2 | case4 | case5 | case8 | case9 | case11 | case12 | case13 | case14 | case15 | case16
  | case19 => cases h

/-- How many calls are open. -/
def State.opened : State → Nat
  | .operand _ frames | .operator _ frames => frames.length

/-- A parenthesis is missing only where fewer are closed than opened. -/
theorem count_lt_of_run {limit stop p : Nat} {st : State} {ts : List Token}
    (h : run limit stop st ts = .error ⟨p, .missingParen⟩) :
    (ts.map Token.symbol).count .closeParen <
      st.opened + (ts.map Token.symbol).count .openParen := by
  fun_induction run limit stop st ts with
  | case2 | case16 => exact Nat.succ_pos _
  | case3 _ _ _ _ _ _ _ _ ih | case6 _ _ _ _ _ _ ih | case7 _ _ _ _ _ _ ih | case10 _ _ _ _ ih
  | case17 _ _ _ _ _ ih | case18 _ _ _ _ _ ih =>
    have := ih h
    simp only [State.opened, List.length_cons, List.map_cons, List.count_cons, beq_iff_eq,
      reduceCtorEq, if_true, if_false] at this ⊢
    omega
  | case1 | case4 | case5 | case8 | case9 | case11 | case12 | case13 | case14 | case15
  | case19 => cases h

/-- The error is that there is nothing to read, or no more. -/
def SyntaxError.IsAtEnd (e : SyntaxError) (stop : Nat) : Prop :=
  e = ⟨0, .emptyExpression⟩ ∨ e = ⟨stop, .missingParen⟩

/-- The parser fails at a token that it blames, or at an end of the text. -/
theorem run_eq_error {limit stop : Nat} {st : State} {ts : List Token} {e : SyntaxError}
    (h : run limit stop st ts = .error e) : e.IsAtEnd stop ∨ ∃ t ∈ ts, e.Blames t := by
  have here : ∀ {s : Symbol} {p : Nat} {ts : List Token} {fault : Fault},
      .error ⟨p, fault⟩ = (.error e : Except SyntaxError Expr) → fault.Blames s →
      e.IsAtEnd stop ∨ ∃ t ∈ ⟨s, p⟩ :: ts, e.Blames t := by
    rintro s p ts fault he hs
    obtain rfl := Except.error.inj he
    exact Or.inr ⟨_, List.mem_cons_self .., rfl, hs⟩
  have later : ∀ {t : Token} {ts : List Token}, (e.IsAtEnd stop ∨ ∃ u ∈ ts, e.Blames u) →
      e.IsAtEnd stop ∨ ∃ u ∈ t :: ts, e.Blames u :=
    fun he => he.imp_right fun ⟨u, hu, hblames⟩ => ⟨u, List.mem_cons_of_mem _ hu, hblames⟩
  fun_induction run limit stop st ts with
  | case1 => exact Or.inl (Or.inl (Except.error.inj h).symm)
  | case2 | case16 => exact Or.inl (Or.inr (Except.error.inj h).symm)
  | case3 _ _ _ _ _ _ _ _ ih => exact later (later (ih h))
  | case4 => exact here h ⟨_, rfl⟩
  | case5 | case12 | case15 | case19 => exact here h rfl
  | case6 _ _ _ _ _ _ ih | case7 _ _ _ _ _ _ ih | case10 _ _ _ _ ih | case17 _ _ _ _ _ ih
  | case18 _ _ _ _ _ ih => exact later (ih h)
  | case8 | case14 => exact here h ⟨rfl, rfl⟩
  | case9 => exact here h (Or.inr rfl)
  | case11 => exact here h (Or.inl rfl)
  | case13 => cases h

/-- Where the lexer is stuck behind its tokens, its error points at what the fault is about. -/
theorem Stuck.pointsAt {text : String} {before after : List Char} {ts : List Token}
    {e : SyntaxError} (h : Stuck (byteLength before) after e)
    (htext : text.toList = before ++ after) (hbefore : Lexes 0 before ts) : PointsAt text e := by
  cases h with
  | quote hq hnone =>
    have hlex : lex (String.ofList before) = .ok ⟨ts, byteLength before⟩ := by
      rw [lex, String.toList_ofList, lexFrom_of_lexes hbefore]
      rfl
    refine .quote htext hq hlex fun body value rest hbody heq => ?_
    have hsome := (splitQuoted_eq_some_iff (ne_backslash_of_isQuote hq)).2
      ⟨heq.symm, isQuotedBody_of_unescapes hbody⟩
    cases hnone.symm.trans hsome
  | @bracket u v c hunpaired =>
    rw [← byteLength_append]
    exact .bracket (by rw [htext, List.append_assoc]) (hunpaired.prepend hbefore)

/-- Every error of the parser is of use. It carries the target, it points between two characters of
it, and it stands where its message says. -/
theorem parse_error_pointsAt {limit : Nat} {target : String} {error : ParseError}
    (h : parse limit target = .error error) :
    error.target = target ∧ PointsAt target error.error ∧
      error.error.position ≤ target.utf8ByteSize ∧
      (⟨error.error.position⟩ : String.Pos.Raw).IsValid target := by
  obtain ⟨e, he, rfl⟩ := mapError_eq_error_iff.1 h
  have hsize : byteLength target.toList = target.utf8ByteSize := by
    rw [← utf8ByteSize_ofList, String.ofList_toList]
  have hpoints : PointsAt target e := by
    rcases bind_eq_error_iff.1 he with hlex | ⟨tokens, hlex, hrun⟩
    · obtain ⟨before, ts, after, htext, hbefore, hstuck⟩ :=
        stuckBehind_of_lexFrom (map_eq_error_iff.1 hlex)
      rw [Nat.zero_add] at hstuck
      exact hstuck.pointsAt htext hbefore
    · obtain ⟨os, hos⟩ := exists_tokensOf hlex
      obtain rfl := Except.ok.inj (hos.lex_eq.symm.trans hlex)
      rcases run_eq_error hrun with (rfl | rfl) | ⟨t, ht, hblames⟩
      · obtain ⟨hnil, -⟩ := eq_nil_of_run hrun
        exact .start (List.map_eq_nil_iff.1 hnil ▸ hos)
      · have hcount := count_lt_of_run hrun
        rw [List.map_map, State.opened, List.length_nil, Nat.zero_add] at hcount
        exact hsize ▸ .stop hos hcount
      · obtain ⟨o, ho, rfl⟩ := List.mem_map.1 ht
        exact .token hos ho hblames
  obtain ⟨before, after, htext, hposition⟩ := hpoints.exists_append
  refine ⟨rfl, hpoints, ?_, ?_⟩
  · rw [← hposition, ← hsize, htext, byteLength_append]
    exact Nat.le_add_right ..
  · refine String.Pos.Raw.isValid_iff_exists_append.2
      ⟨String.ofList before, String.ofList after, ?_, ?_⟩
    · rw [← String.ofList_append, ← htext, String.ofList_toList]
    · exact congrArg String.Pos.Raw.mk (hposition.symm.trans (utf8ByteSize_ofList before).symm)

/-- A bracket that closes another kind, behind two letters of two bytes. -/
theorem parse_error_pointsAt_otherBracket :
    parse 1 "é(ñ,{[x}" = .error ⟨"é(ñ,{[x}", ⟨9, .unbalanced '}'⟩⟩ ∧
      PointsAt "é(ñ,{[x}" ⟨9, .unbalanced '}'⟩ ∧ 9 ≤ "é(ñ,{[x}".utf8ByteSize ∧
      (⟨9⟩ : String.Pos.Raw).IsValid "é(ñ,{[x}" := by
  have hlex : lexFrom 0 "é(ñ,{[x}".toList = .error ⟨9, .unbalanced '}'⟩ := by
    have herror : (match lexFrom 0 "é(ñ,{[x}".toList with
        | .error e => some e
        | .ok _ => none) = some ⟨9, .unbalanced '}'⟩ := by
      decide +kernel
    cases hr : lexFrom 0 "é(ñ,{[x}".toList with
    | error e => exact congrArg _ (Option.some.inj (by rwa [hr] at herror))
    | ok ts =>
      rw [hr] at herror
      cases herror
  have h : parse 1 "é(ñ,{[x}" = .error ⟨"é(ñ,{[x}", ⟨9, .unbalanced '}'⟩⟩ := by
    rw [parse, lex, hlex]
    rfl
  exact ⟨h, (parse_error_pointsAt h).2⟩

end SeriesRender.Target
