import SeriesRender.Proofs.Basic
import SeriesRender.Target.Lexer

/-!
# What the lexer accepts

`Lexes pos cs ts` says, without a scanner, that `ts` are the tokens of the text `cs` at offset
`pos` : blanks are skipped, a mark is a token of its own, a quoted token runs from its quote to
the next one that nothing escapes (`isQuotedBody`), and a word is a run of characters that nest
their brackets (`nests`) up to a delimiter or the end. `lexFrom_eq_ok_iff` says that the lexer
succeeds exactly on the texts that have tokens, with these tokens.
A `Lexeme` is one of the pieces that become a token; `Lexes.inductionOn` takes a text apart into
blanks and lexemes.

The scanners have one such lemma each, `scanWord_eq_ok_iff` and `splitQuoted_eq_some_iff`. Every
word that the lexer yields is a word on its own, and every quote a quote (`lexical_of_lexes`).
-/

namespace SeriesRender.Target

open Text

/-! ## Words -/

/-- Whether a word can go on with these characters and end behind them, where `opened` are its
brackets not yet closed, innermost first. -/
def nests : List Char → List Char → Bool
  | opened, [] => opened.isEmpty
  | opened, c :: cs =>
    if isDelimiter c && (opened.isEmpty || c ≠ ',') then false
    else if isOpenBracket c then nests (c :: opened) cs
    else
      match opener? c with
      | none => nests opened cs
      | some o => opened.head? = some o && nests opened.tail cs

/-- Whether a word can end where a text goes on like this. -/
def StopsWord (rest : List Char) : Prop :=
  ∀ c ∈ rest.head?, isDelimiter c = true

@[simp] theorem stopsWord_nil : StopsWord [] := by
  simp [StopsWord]

@[simp] theorem stopsWord_cons {c : Char} {cs : List Char} :
    StopsWord (c :: cs) ↔ isDelimiter c = true := by
  simp [StopsWord]

/-- A word does not start with a delimiter. -/
theorem isDelimiter_of_nests {c : Char} {cs : List Char} (h : nests [] (c :: cs) = true) :
    isDelimiter c = false := by
  cases hc : isDelimiter c with
  | false => rfl
  | true => simp [nests, hc] at h

/-- No word goes on with a character that ends it. -/
theorem nests_cons_of_endsWord {opened : List (Char × Nat)} {c : Char}
    (h : endsWord opened c = true) (cs : List Char) :
    nests (opened.map Prod.fst) (c :: cs) = false := by
  rw [endsWord, ← List.isEmpty_map (f := Prod.fst)] at h
  rw [nests, h]
  rfl

theorem nests_cons {opened : List (Char × Nat)} {c : Char} (h : endsWord opened c = false)
    (cs : List Char) : nests (opened.map Prod.fst) (c :: cs) =
      if isOpenBracket c then nests (c :: opened.map Prod.fst) cs
      else
        match opener? c with
        | none => nests (opened.map Prod.fst) cs
        | some o =>
          (opened.map Prod.fst).head? = some o && nests (opened.map Prod.fst).tail cs := by
  rw [endsWord, ← List.isEmpty_map (f := Prod.fst)] at h
  rw [nests, h]
  rfl

/-- A word that does not end before a character begins with it. -/
theorem word_cons_iff {opened : List (Char × Nat)} {c : Char} (h : endsWord opened c = false)
    {cs w rest : List Char} :
    (w ++ rest = c :: cs ∧ nests (opened.map Prod.fst) w = true ∧ StopsWord rest) ↔
      ∃ v, w = c :: v ∧ v ++ rest = cs ∧ nests (opened.map Prod.fst) (c :: v) = true ∧
        StopsWord rest := by
  constructor
  · rintro ⟨happ, hn, hr⟩
    cases w with
    | nil =>
      -- an empty word leaves no bracket open, so `c` would have ended it
      rw [List.nil_append] at happ
      subst happ
      rw [nests, List.isEmpty_map, List.isEmpty_iff] at hn
      rw [hn, endsWord, stopsWord_cons.1 hr] at h
      cases h
    | cons d v =>
      obtain ⟨rfl, rfl⟩ := List.cons.inj happ
      exact ⟨v, rfl, rfl, hn, hr⟩
  · rintro ⟨v, rfl, rfl, hn, hr⟩
    exact ⟨rfl, hn, hr⟩

theorem map_cons_eq_ok_iff {c : Char} {w rest : List Char}
    {r : Except SyntaxError (List Char × List Char)} :
    r.map (fun (w, rest) => (c :: w, rest)) = .ok (w, rest) ↔
      ∃ v, w = c :: v ∧ r = .ok (v, rest) := by
  rw [map_eq_ok_iff]
  constructor
  · rintro ⟨⟨v, _⟩, hr, heq⟩
    obtain ⟨rfl, rfl⟩ := Prod.mk.inj heq
    exact ⟨v, rfl, hr⟩
  · rintro ⟨v, rfl, hr⟩
    exact ⟨(v, rest), hr, rfl⟩

/-- A scan for a word cuts the text behind characters that nest, before a delimiter. The offset
plays no part. -/
theorem scanWord_eq_ok_iff {opened : List (Char × Nat)} {pos : Nat} {cs w rest : List Char} :
    scanWord opened pos cs = .ok (w, rest) ↔
      w ++ rest = cs ∧ nests (opened.map Prod.fst) w = true ∧ StopsWord rest := by
  fun_induction scanWord opened pos cs generalizing w rest with
  | case1 =>
    constructor
    · intro h
      cases h
      simp [nests]
    · rintro ⟨happ, -, -⟩
      obtain ⟨rfl, rfl⟩ := List.append_eq_nil_iff.1 happ
      rfl
  | case2 pos c p outer =>
    constructor
    · intro h
      cases h
    · rintro ⟨happ, hn, -⟩
      obtain ⟨rfl, rfl⟩ := List.append_eq_nil_iff.1 happ
      simp [nests] at hn
  | case3 pos c cs hend =>
    constructor
    · intro h
      cases h
      rw [endsWord, List.isEmpty_nil, Bool.true_or, Bool.and_true] at hend
      simp [nests, hend]
    · rintro ⟨happ, hn, -⟩
      cases w with
      | nil => rw [← happ]; rfl
      | cons d v =>
        obtain ⟨rfl, rfl⟩ := List.cons.inj happ
        rw [nests_cons_of_endsWord hend] at hn
        cases hn
  | case4 pos c cs o p outer hend =>
    constructor
    · intro h
      cases h
    · rintro ⟨happ, hn, -⟩
      cases w with
      | nil => simp [nests] at hn
      | cons d v =>
        obtain ⟨rfl, rfl⟩ := List.cons.inj happ
        rw [nests_cons_of_endsWord hend] at hn
        cases hn
  | case5 opened pos c cs hend hopen ih =>
    rw [Bool.not_eq_true] at hend
    rw [map_cons_eq_ok_iff, word_cons_iff hend]
    simp only [ih, nests_cons hend, hopen, if_true, List.map_cons]
  | case6 opened pos c cs hend hopen hclose ih =>
    rw [Bool.not_eq_true] at hend
    rw [map_cons_eq_ok_iff, word_cons_iff hend]
    simp only [ih, nests_cons hend, if_neg hopen, hclose]
  | case7 pos c cs hopen o hclose hend =>
    rw [Bool.not_eq_true] at hend
    rw [word_cons_iff hend]
    simp only [nests_cons hend, if_neg hopen, hclose]
    simp
  | case8 pos c cs hopen b p outer hend hclose ih =>
    rw [Bool.not_eq_true] at hend
    rw [map_cons_eq_ok_iff, word_cons_iff hend]
    simp only [ih, nests_cons hend, if_neg hopen, hclose]
    simp
  | case9 pos c cs hopen o hclose b p outer hne hend =>
    rw [Bool.not_eq_true] at hend
    rw [word_cons_iff hend]
    simp only [nests_cons hend, if_neg hopen, hclose]
    simp [hne]

/-! ## Quoted strings -/

/-- Whether the text behind an opening quote can be closed at its end, and nowhere before. -/
def isQuotedBody (quote : Char) : List Char → Bool
  | [] => true
  | [c] => c ≠ quote && c ≠ '\\'
  | c :: d :: cs =>
    if c = '\\' then isQuotedBody quote cs else c ≠ quote && isQuotedBody quote (d :: cs)

/-- A quote that is not escaped ends the body. -/
theorem splitQuoted_quote {quote : Char} (hq : quote ≠ '\\') (rest : List Char) :
    splitQuoted quote (quote :: rest) = some ([], rest) := by
  cases rest <;> simp [splitQuoted, hq]

/-- Splitting finds the one body that ends at the first quote that is not escaped. -/
theorem splitQuoted_eq_some_iff {quote : Char} (hq : quote ≠ '\\') {cs body rest : List Char} :
    splitQuoted quote cs = some (body, rest) ↔
      body ++ quote :: rest = cs ∧ isQuotedBody quote body = true := by
  constructor
  · intro h
    refine ⟨append_of_splitQuoted h, ?_⟩
    fun_induction splitQuoted quote cs generalizing body rest with
    | case1 => cases h
    | case2 => cases h; rfl
    | case3 => cases h
    | case4 d cs ih =>
      obtain ⟨⟨b, r⟩, hb, he⟩ := Option.map_eq_some_iff.1 h
      cases he
      simpa [isQuotedBody] using ih hb
    | case5 => cases h; rfl
    | case6 c d cs hc hq ih =>
      obtain ⟨⟨b, r⟩, hb, he⟩ := Option.map_eq_some_iff.1 h
      cases he
      cases b with
      | nil => simp [isQuotedBody, hc, hq]
      | cons e b => simpa [isQuotedBody, hc, hq] using ih hb
  · rintro ⟨rfl, hb⟩
    fun_induction isQuotedBody quote body with
    | case1 => exact splitQuoted_quote hq rest
    | case2 c =>
      obtain ⟨hcq, hc⟩ : c ≠ quote ∧ c ≠ '\\' := by simpa using hb
      simp [splitQuoted, hc, hcq, splitQuoted_quote hq]
    | case3 d cs ih => simp [splitQuoted, ih hb]
    | case4 c d cs hc ih =>
      obtain ⟨hcq, hb⟩ : c ≠ quote ∧ isQuotedBody quote (d :: cs) = true := by simpa using hb
      have := ih hb
      rw [List.cons_append] at this
      simp [splitQuoted, hc, hcq, this]

/-! ## Marks and quotes -/

/-- The symbol that a character is by itself. -/
def mark? (c : Char) : Option Symbol :=
  if c = '(' then some .openParen
  else if c = ')' then some .closeParen
  else if c = ',' then some .comma
  else none

/-- The three marks and their symbols. -/
theorem eq_of_mark? {c : Char} {s : Symbol} (h : mark? c = some s) :
    c = '(' ∧ s = .openParen ∨ c = ')' ∧ s = .closeParen ∨ c = ',' ∧ s = .comma := by
  unfold mark? at h
  split at h
  · next hc => exact Or.inl ⟨hc, (Option.some.inj h).symm⟩
  · split at h
    · next hc => exact Or.inr (Or.inl ⟨hc, (Option.some.inj h).symm⟩)
    · split at h
      · next hc => exact Or.inr (Or.inr ⟨hc, (Option.some.inj h).symm⟩)
      · cases h

theorem utf8Size_of_mark? {c : Char} {s : Symbol} (h : mark? c = some s) : c.utf8Size = 1 := by
  rcases eq_of_mark? h with ⟨rfl, -⟩ | ⟨rfl, -⟩ | ⟨rfl, -⟩ <;> decide

theorem mark?_eq_none_iff {c : Char} : mark? c = none ↔ c ≠ '(' ∧ c ≠ ')' ∧ c ≠ ',' := by
  unfold mark?
  by_cases h1 : c = '('
  · simp [h1]
  · by_cases h2 : c = ')'
    · simp [h2]
    · simp [h1, h2]

theorem eq_of_isQuote {c : Char} (h : isQuote c = true) : c = '\'' ∨ c = '"' := by
  simpa [isQuote] using h

theorem ne_backslash_of_isQuote {c : Char} (h : isQuote c = true) : c ≠ '\\' := by
  rcases eq_of_isQuote h with rfl | rfl <;> decide

/-- A delimiter is a blank, a mark or a quote. -/
theorem isDelimiter_eq_false_iff {c : Char} :
    isDelimiter c = false ↔ isBlank c = false ∧ mark? c = none ∧ isQuote c = false := by
  rw [mark?_eq_none_iff]
  simp only [isDelimiter, Bool.or_eq_false_iff, decide_eq_false_iff_not, ne_eq, and_assoc]

/-! ## Texts and their tokens -/

/-- `ts` are the tokens of the text `cs`, whose offset is `pos`. -/
inductive Lexes : Nat → List Char → List Token → Prop
  | done (pos : Nat) : Lexes pos [] []
  | blank {pos : Nat} {c : Char} {cs : List Char} {ts : List Token} :
      isBlank c = true → Lexes (pos + c.utf8Size) cs ts → Lexes pos (c :: cs) ts
  | mark {pos : Nat} {c : Char} {s : Symbol} {cs : List Char} {ts : List Token} :
      mark? c = some s → Lexes (pos + c.utf8Size) cs ts → Lexes pos (c :: cs) (⟨s, pos⟩ :: ts)
  | quoted {pos : Nat} {quote : Char} {body rest : List Char} {ts : List Token} :
      isQuote quote = true → isQuotedBody quote body = true →
      Lexes (pos + byteLength body + 2) rest ts →
      Lexes pos (quote :: (body ++ quote :: rest))
        (⟨.quoted (String.ofList (unescape quote body)) quote, pos⟩ :: ts)
  | word {pos : Nat} {w rest : List Char} {ts : List Token} :
      w ≠ [] → nests [] w = true → StopsWord rest → Lexes (pos + byteLength w) rest ts →
      Lexes pos (w ++ rest) (⟨.word (String.ofList w), pos⟩ :: ts)

/-- The piece is a lexeme that is read as the symbol, where the text goes on with `rest`. -/
inductive Lexeme : List Char → Symbol → List Char → Prop
  | mark {c : Char} {s : Symbol} {rest : List Char} : mark? c = some s → Lexeme [c] s rest
  | quoted {quote : Char} {body rest : List Char} :
      isQuote quote = true → isQuotedBody quote body = true →
      Lexeme (quote :: (body ++ [quote]))
        (.quoted (String.ofList (unescape quote body)) quote) rest
  | word {w rest : List Char} :
      w ≠ [] → nests [] w = true → StopsWord rest → Lexeme w (.word (String.ofList w)) rest

theorem byteLength_quoted {quote : Char} (hq : isQuote quote = true) (body : List Char) :
    byteLength (quote :: (body ++ [quote])) = byteLength body + 2 := by
  have hsize : quote.utf8Size = 1 := by
    rcases eq_of_isQuote hq with rfl | rfl <;> decide
  simp only [byteLength_append, byteLength_cons, byteLength_nil, hsize]
  omega

/-- A lexeme in front of a text puts its token in front of those of the text. -/
theorem Lexeme.lexes {piece rest : List Char} {s : Symbol} (h : Lexeme piece s rest) {pos : Nat}
    {ts : List Token} (hrest : Lexes (pos + byteLength piece) rest ts) :
    Lexes pos (piece ++ rest) (⟨s, pos⟩ :: ts) := by
  cases h with
  | mark hm => exact .mark hm hrest
  | @quoted quote body _ hq hbody =>
    rw [byteLength_quoted hq, ← Nat.add_assoc] at hrest
    have := Lexes.quoted hq hbody hrest
    simpa using this
  | word hne hw hstop => exact .word hne hw hstop hrest

/-- Only a word asks for what follows it. -/
theorem Lexeme.of_stopsWord {piece rest rest' : List Char} {s : Symbol} (h : Lexeme piece s rest)
    (hrest : StopsWord rest → StopsWord rest') : Lexeme piece s rest' := by
  cases h with
  | mark hm => exact .mark hm
  | quoted hq hbody => exact .quoted hq hbody
  | word hne hw hstop => exact .word hne hw (hrest hstop)

/-- Induction over a text : it is empty, begins with a blank, or begins with a lexeme. -/
@[elab_as_elim]
theorem Lexes.inductionOn
    {motive : (pos : Nat) → (cs : List Char) → (ts : List Token) → Lexes pos cs ts → Prop}
    (done : ∀ pos, motive pos [] [] (.done pos))
    (blank : ∀ {pos c cs ts} (hc : isBlank c = true) (h : Lexes (pos + c.utf8Size) cs ts),
      motive (pos + c.utf8Size) cs ts h → motive pos (c :: cs) ts (.blank hc h))
    (lexeme : ∀ {pos piece s rest ts} (hpiece : Lexeme piece s rest)
      (h : Lexes (pos + byteLength piece) rest ts), motive (pos + byteLength piece) rest ts h →
      motive pos (piece ++ rest) (⟨s, pos⟩ :: ts) (hpiece.lexes h))
    {pos : Nat} {cs : List Char} {ts : List Token} (h : Lexes pos cs ts) : motive pos cs ts h := by
  -- whichever proof `motive` is asked about
  suffices hall : ∀ h' : Lexes pos cs ts, motive pos cs ts h' from hall h
  induction h with
  | done pos => exact fun _ => done pos
  | blank hc h ih => exact fun _ => blank hc h (ih h)
  | mark hm h ih => exact fun _ => lexeme (.mark hm) h (ih h)
  | @quoted pos quote body rest ts hq hbody h ih =>
    rw [Nat.add_assoc, ← byteLength_quoted hq] at h ih
    have hcs : quote :: (body ++ quote :: rest) = quote :: (body ++ [quote]) ++ rest := by simp
    rw [hcs]
    exact fun _ => lexeme (.quoted hq hbody) h (ih h)
  | word hne hw hstop h ih => exact fun _ => lexeme (.word hne hw hstop) h (ih h)

/-- What the scanner takes as a word is a lexeme, and nothing of the text is lost. -/
theorem lexeme_of_scanWord {pos : Nat} {c : Char} {cs w rest : List Char} (hb : ¬isBlank c = true)
    (hopen : ¬c = '(') (hclose : ¬c = ')') (hcomma : ¬c = ',') (hq : ¬isQuote c = true)
    (h : scanWord [] pos (c :: cs) = .ok (w, rest)) :
    w ++ rest = c :: cs ∧ Lexeme w (.word (String.ofList w)) rest := by
  obtain ⟨happ, hn, hr⟩ := scanWord_eq_ok_iff.1 h
  have hd : isDelimiter c = false :=
    isDelimiter_eq_false_iff.2
      ⟨by simpa using hb, mark?_eq_none_iff.2 ⟨hopen, hclose, hcomma⟩, by simpa using hq⟩
  have hne : w ≠ [] := by
    rintro rfl
    rw [List.nil_append] at happ
    rw [happ, stopsWord_cons, hd] at hr
    cases hr
  exact ⟨happ, .word hne hn hr⟩

/-- A token in front is kept if the rest can be read. -/
theorem cons_eq_ok_iff {s : Symbol} {pos : Nat} {r : Except SyntaxError (List Token)}
    {ts : List Token} : cons s pos r = .ok ts ↔ ∃ us, ts = ⟨s, pos⟩ :: us ∧ r = .ok us := by
  unfold cons
  rw [map_eq_ok_iff]
  constructor
  · rintro ⟨us, hr, rfl⟩
    exact ⟨us, rfl, hr⟩
  · rintro ⟨us, rfl, hr⟩
    exact ⟨us, hr, rfl⟩

/-- What the lexer reads is made of lexemes and blanks. -/
theorem lexes_of_lexFrom {pos : Nat} {cs : List Char} {ts : List Token}
    (h : lexFrom pos cs = .ok ts) : Lexes pos cs ts := by
  fun_induction lexFrom pos cs generalizing ts with
  | case1 pos =>
    cases h
    exact .done pos
  | case2 pos c cs hb ih => exact .blank hb (ih h)
  | case3 pos cs _ ih =>
    obtain ⟨us, rfl, hus⟩ := cons_eq_ok_iff.1 h
    exact .mark rfl (ih hus)
  | case4 pos cs _ _ ih =>
    obtain ⟨us, rfl, hus⟩ := cons_eq_ok_iff.1 h
    exact .mark rfl (ih hus)
  | case5 pos cs _ _ _ ih =>
    obtain ⟨us, rfl, hus⟩ := cons_eq_ok_iff.1 h
    exact .mark rfl (ih hus)
  | case6 => cases h
  | case7 pos c cs _ _ _ _ hq body rest hbody _ ih =>
    obtain ⟨us, rfl, hus⟩ := cons_eq_ok_iff.1 h
    obtain ⟨rfl, hb⟩ := (splitQuoted_eq_some_iff (ne_backslash_of_isQuote hq)).1 hbody
    exact .quoted hq hb (ih hus)
  | case8 => cases h
  | case9 pos c cs hb ho hc hs hq w rest hw _ ih =>
    obtain ⟨us, rfl, hus⟩ := cons_eq_ok_iff.1 h
    obtain ⟨happ, hword⟩ := lexeme_of_scanWord hb ho hc hs hq hw
    rw [← happ]
    exact hword.lexes (ih hus)

/-- Whatever is made of lexemes and blanks is read as their tokens. -/
theorem lexFrom_of_lexes {pos : Nat} {cs : List Char} {ts : List Token} (h : Lexes pos cs ts) :
    lexFrom pos cs = .ok ts := by
  induction h with
  | done pos => rw [lexFrom.eq_def]
  | blank hb _ ih =>
    rw [lexFrom.eq_def]
    exact (dif_pos hb).trans ih
  | mark hm _ ih =>
    rw [utf8Size_of_mark? hm] at ih
    rcases eq_of_mark? hm with ⟨rfl, rfl⟩ | ⟨rfl, rfl⟩ | ⟨rfl, rfl⟩
    all_goals
      rw [lexFrom.eq_def]
      simp [isBlank, ih, cons, Except.map]
  | @quoted pos quote body rest ts hq hb _ ih =>
    have hs : splitQuoted quote (body ++ quote :: rest) = some (body, rest) :=
      (splitQuoted_eq_some_iff (ne_backslash_of_isQuote hq)).2 ⟨rfl, hb⟩
    have hm : isBlank quote = false ∧ quote ≠ '(' ∧ quote ≠ ')' ∧ quote ≠ ',' := by
      rcases eq_of_isQuote hq with rfl | rfl <;> decide
    rw [lexFrom.eq_def]
    simp only [hm, hq, dite_true, dite_false, Bool.false_eq_true]
    split
    · next h => rw [hs] at h; cases h
    · next h =>
      rw [hs] at h
      cases h
      rw [ih]
      rfl
  | @word pos w rest ts hne hn hr _ ih =>
    obtain ⟨c, v, rfl⟩ := List.exists_cons_of_ne_nil hne
    have hs : scanWord [] pos (c :: (v ++ rest)) = .ok (c :: v, rest) :=
      scanWord_eq_ok_iff.2 ⟨rfl, hn, hr⟩
    obtain ⟨hb, hm, hq⟩ := isDelimiter_eq_false_iff.1 (isDelimiter_of_nests hn)
    rw [mark?_eq_none_iff] at hm
    rw [List.cons_append, lexFrom.eq_def]
    simp only [hb, hm, hq, dite_false, Bool.false_eq_true]
    split
    · next h => rw [hs] at h; cases h
    · next h =>
      rw [hs] at h
      cases h
      rw [ih]
      rfl

/-- The lexer reads just the texts made of lexemes and blanks. -/
theorem lexFrom_eq_ok_iff {pos : Nat} {cs : List Char} {ts : List Token} :
    lexFrom pos cs = .ok ts ↔ Lexes pos cs ts :=
  ⟨lexes_of_lexFrom, lexFrom_of_lexes⟩

theorem le_position_of_lexes {pos : Nat} {cs : List Char} {ts : List Token}
    (h : Lexes pos cs ts) : ∀ t ∈ ts, pos ≤ t.position := by
  induction h with
  | done => simp
  | blank _ _ ih => exact fun t ht => by have := ih t ht; omega
  | mark _ _ ih =>
    exact List.forall_mem_cons.2 ⟨Nat.le_refl _, fun t ht => by have := ih t ht; omega⟩
  | quoted _ _ _ ih =>
    exact List.forall_mem_cons.2 ⟨Nat.le_refl _, fun t ht => by have := ih t ht; omega⟩
  | word _ _ _ _ ih =>
    exact List.forall_mem_cons.2 ⟨Nat.le_refl _, fun t ht => by have := ih t ht; omega⟩

/-! ## Symbols as the lexer yields them -/

/-- A text that is a single word. -/
def IsWord (w : String) : Prop :=
  lex w = .ok ⟨[⟨.word w, 0⟩], byteLength w.toList⟩

/-- A word is a text that is one token by itself. -/
theorem isWord_iff_lexes {w : String} : IsWord w ↔ Lexes 0 w.toList [⟨.word w, 0⟩] := by
  rw [← lexFrom_eq_ok_iff, IsWord, lex, map_eq_ok_iff]
  constructor
  · rintro ⟨ts, hts, heq⟩
    rw [hts, (Tokens.mk.inj heq).1]
  · intro h
    exact ⟨_, h, rfl⟩

theorem isWord_iff {w : String} : IsWord w ↔ w.toList ≠ [] ∧ nests [] w.toList = true := by
  rw [isWord_iff_lexes]
  constructor
  · intro h
    generalize hcs : w.toList = cs at h
    cases h with
    | @blank _ c cs _ _ h =>
      -- behind a blank no token is at offset 0
      have hle := le_position_of_lexes h _ (List.mem_singleton_self _)
      have := c.utf8Size_pos
      simp only at hle
      omega
    | mark hm _ => rcases eq_of_mark? hm with ⟨-, h⟩ | ⟨-, h⟩ | ⟨-, h⟩ <;> cases h
    | @word _ v rest _ hne hn _ _ =>
      rw [String.toList_ofList, List.self_eq_append_right] at hcs
      subst hcs
      rw [List.append_nil]
      exact ⟨hne, hn⟩
  · rintro ⟨hne, hn⟩
    have h : Lexes 0 (w.toList ++ []) [⟨.word (String.ofList w.toList), 0⟩] :=
      .word hne hn stopsWord_nil (.done _)
    rwa [List.append_nil, String.ofList_toList] at h

/-- Whether a symbol can be a token of some text : its word is a single word, its quote a quote. -/
def Symbol.Lexical : Symbol → Prop
  | .word w => IsWord w
  | .quoted _ quote => isQuote quote = true
  | _ => True

/-- Only symbols that can be written come out of the lexer. -/
theorem lexical_of_lexes {pos : Nat} {cs : List Char} {ts : List Token} (h : Lexes pos cs ts) :
    ∀ t ∈ ts, t.symbol.Lexical := by
  induction h with
  | done => simp
  | blank _ _ ih => exact ih
  | mark hm _ ih =>
    refine List.forall_mem_cons.2 ⟨?_, ih⟩
    rcases eq_of_mark? hm with ⟨-, rfl⟩ | ⟨-, rfl⟩ | ⟨-, rfl⟩ <;> trivial
  | quoted hq _ _ ih => exact List.forall_mem_cons.2 ⟨hq, ih⟩
  | word hne hn _ _ ih =>
    exact List.forall_mem_cons.2 ⟨isWord_iff.2 (by simpa using ⟨hne, hn⟩), ih⟩

end SeriesRender.Target
