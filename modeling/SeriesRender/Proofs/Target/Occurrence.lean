import SeriesRender.Proofs.Target.Lexeme

/-!
# Tokens where they stand

An `Occurrence` is a piece of a text between what stands before and behind it, read as a symbol.
`Occurrence.IsSpelled` says, without a scanner, when a piece spells its symbol : a mark is its one
character, a quoted string stands between two quotes and unescapes to its value (`Unescapes`), and a
word is the piece itself, with balanced brackets, a comma only inside them, and a delimiter or the
end of the text behind it (`IsWordPiece`).

`lex_tiles` says that the lexer loses and invents nothing : its tokens are occurrences that spell
their symbols and do not overlap, and everything between them is blank.
`TokensOf text os` says that `os` are the tokens of a text, which determines them
(`TokensOf.unique`).
-/

namespace SeriesRender.Text

/-- The size of a text is the number of bytes of its characters. -/
theorem utf8ByteSize_ofList (cs : List Char) : (String.ofList cs).utf8ByteSize = byteLength cs := by
  induction cs with
  | nil => rfl
  | cons c cs ih =>
    have h : String.ofList (c :: cs) = String.singleton c ++ String.ofList cs := by
      rw [String.singleton_eq_ofList, ← String.ofList_append]
      rfl
    rw [h, String.utf8ByteSize_append, ih, byteLength_cons, String.utf8ByteSize_singleton]

theorem byteLength_pos {cs : List Char} (h : cs ≠ []) : 0 < byteLength cs := by
  obtain ⟨c, cs, rfl⟩ := List.exists_cons_of_ne_nil h
  have := c.utf8Size_pos
  rw [byteLength_cons]
  omega

/-- Two splits of one text at the same byte are the same. -/
theorem eq_of_byteLength_eq {as bs cs ds : List Char} (h : as ++ bs = cs ++ ds)
    (hlen : byteLength as = byteLength cs) : as = cs ∧ bs = ds := by
  have hnil : ∀ {us vs : List Char}, byteLength us = byteLength (us ++ vs) → vs = [] := by
    intro us vs hv
    rw [byteLength_append] at hv
    exact Decidable.byContradiction fun hne => by
      have := byteLength_pos hne
      omega
  rcases List.append_eq_append_iff.1 h with ⟨us, rfl, rfl⟩ | ⟨us, rfl, rfl⟩
  · obtain rfl := hnil hlen
    simp
  · obtain rfl := hnil hlen.symm
    simp

end SeriesRender.Text

namespace SeriesRender.Target

open Text

/-! ## Words -/

/-- A bracket and the one that closes it. -/
def Pairs (o c : Char) : Prop :=
  o = '{' ∧ c = '}' ∨ o = '[' ∧ c = ']'

/-- Every bracket is closed by its own kind, and brackets are nested properly. -/
inductive Balanced : List Char → Prop
  | nil : Balanced []
  | plain {c : Char} {cs : List Char} : c ∉ ['{', '}', '[', ']'] → Balanced cs → Balanced (c :: cs)
  | pair {o c : Char} {inner rest : List Char} :
      Pairs o c → Balanced inner → Balanced rest → Balanced (o :: (inner ++ c :: rest))

/-- A piece of a text that is a word, `after` being the text behind it. A comma in it stands inside
brackets : what is before the comma leaves one open. -/
structure IsWordPiece (piece after : List Char) : Prop where
  ne_nil : piece ≠ []
  balanced : Balanced piece
  no_delimiter : ∀ c ∈ piece, isBlank c = false ∧ c ∉ ['(', ')', '\'', '"']
  comma_inside : ∀ u v, piece = u ++ ',' :: v → ¬ Balanced u
  maximal : ∀ c ∈ after.head?, isDelimiter c = true

theorem opener?_eq_some_iff {o c : Char} : opener? c = some o ↔ Pairs o c := by
  unfold opener? Pairs
  by_cases h1 : c = '}'
  · simp [h1, eq_comm]
  · by_cases h2 : c = ']'
    · simp [h2, eq_comm]
    · simp [h1, h2]

theorem isOpenBracket_of_pairs {o c : Char} (h : Pairs o c) : isOpenBracket o = true := by
  rcases h with ⟨rfl, -⟩ | ⟨rfl, -⟩ <;> decide

theorem isOpenBracket_eq_false_of_pairs {o c : Char} (h : Pairs o c) : isOpenBracket c = false := by
  rcases h with ⟨-, rfl⟩ | ⟨-, rfl⟩ <;> decide

/-- What is neither an opening nor a closing bracket is none of the four. -/
theorem not_mem_brackets {c : Char} (h : isOpenBracket c = false) (hc : opener? c = none) :
    c ∉ ['{', '}', '[', ']'] := by
  simp only [isOpenBracket, Bool.or_eq_false_iff, decide_eq_false_iff_not] at h
  intro hmem
  simp only [List.mem_cons, List.not_mem_nil, or_false] at hmem
  rcases hmem with rfl | rfl | rfl | rfl
  · exact h.1 rfl
  · cases hc
  · exact h.2 rfl
  · cases hc

/-- The four brackets are all there are. -/
theorem of_not_mem_brackets {c : Char} (h : c ∉ ['{', '}', '[', ']']) :
    isOpenBracket c = false ∧ opener? c = none := by
  simp only [List.mem_cons, List.not_mem_nil, or_false, not_or] at h
  simp [isOpenBracket, opener?, h]

/-- How a word goes on with a character : it opens a bracket, is none, or closes the innermost. -/
theorem nests_cons_cases {opened cs : List Char} {c : Char} (h : nests opened (c :: cs) = true) :
    (isDelimiter c = true → c = ',' ∧ opened ≠ []) ∧
      ((isOpenBracket c = true ∧ nests (c :: opened) cs = true) ∨
        (c ∉ ['{', '}', '[', ']'] ∧ nests opened cs = true) ∨
        ∃ o outer, Pairs o c ∧ opened = o :: outer ∧ nests outer cs = true) := by
  rw [nests] at h
  split at h
  · cases h
  · next hend =>
    refine ⟨fun hc => ?_, ?_⟩
    · simp only [hc, Bool.true_and, Bool.or_eq_true, List.isEmpty_iff, decide_eq_true_eq, not_or,
        ne_eq, Decidable.not_not] at hend
      exact ⟨hend.2, hend.1⟩
    · split at h
      · next hopen => exact Or.inl ⟨hopen, h⟩
      · next hopen =>
        split at h
        · next hclose =>
          exact Or.inr (Or.inl ⟨not_mem_brackets (by simpa using hopen) hclose, h⟩)
        · next o hclose =>
          simp only [Bool.and_eq_true, decide_eq_true_eq] at h
          obtain ⟨outer, rfl⟩ := List.head?_eq_some_iff.1 h.1
          exact Or.inr (Or.inr ⟨o, outer, opener?_eq_some_iff.1 hclose, rfl, h.2⟩)

theorem Balanced.append {u v : List Char} (hu : Balanced u) (hv : Balanced v) :
    Balanced (u ++ v) := by
  induction hu with
  | nil => exact hv
  | plain hc _ ih => exact .plain hc ih
  | @pair o c inner rest hp hinner _ _ ih =>
    have := Balanced.pair hp hinner ih
    simpa using this

/-- A text that closes the brackets `opened`, innermost first, and no others. -/
inductive Closes : List Char → List Char → Prop
  | done {cs : List Char} : Balanced cs → Closes [] cs
  | close {o c : Char} {opened cs rest : List Char} :
      Balanced cs → Pairs o c → Closes opened rest → Closes (o :: opened) (cs ++ c :: rest)

theorem Closes.prepend {opened u v : List Char} (hu : Balanced u) (hv : Closes opened v) :
    Closes opened (u ++ v) := by
  cases hv with
  | done hv => exact .done (hu.append hv)
  | close hcs hp hrest =>
    rw [← List.append_assoc]
    exact .close (hu.append hcs) hp hrest

/-- A text that nests closes what is open, the innermost bracket first. -/
theorem closes_of_nests {opened cs : List Char} (h : nests opened cs = true) :
    Closes opened cs := by
  induction cs generalizing opened with
  | nil =>
    rw [nests, List.isEmpty_iff] at h
    subst h
    exact .done .nil
  | cons c cs ih =>
    rcases (nests_cons_cases h).2 with ⟨-, hcs⟩ | ⟨hc, hcs⟩ | ⟨o, outer, hp, rfl, hcs⟩
    · -- the bracket that `c` opens is closed first, and what it encloses is balanced
      cases ih hcs with
      | @close _ d _ inner rest hinner hp hrest =>
        have hpair : Balanced (c :: (inner ++ d :: [])) := .pair hp hinner .nil
        have := hrest.prepend hpair
        simpa using this
    · exact (ih hcs).prepend (.plain hc .nil)
    · exact .close .nil hp (ih hcs)

theorem balanced_of_nests {w : List Char} (h : nests [] w = true) : Balanced w := by
  cases closes_of_nests h with
  | done h => exact h

/-- Behind a balanced beginning the same brackets are open as before it. -/
theorem nests_of_append {opened u v : List Char} (hu : Balanced u)
    (h : nests opened (u ++ v) = true) : nests opened v = true := by
  induction hu generalizing opened v with
  | nil => exact h
  | @plain c cs hc _ ih =>
    obtain ⟨hopen, hclose⟩ := of_not_mem_brackets hc
    rcases (nests_cons_cases h).2 with ⟨ho, -⟩ | ⟨-, hcs⟩ | ⟨o, outer, hp, -, -⟩
    · exact absurd (ho.symm.trans hopen) (by decide)
    · exact ih hcs
    · exact absurd ((opener?_eq_some_iff.2 hp).symm.trans hclose) (by simp)
  | @pair o c inner rest hp _ _ ihinner ihrest =>
    have hinner : nests (o :: opened) (inner ++ c :: (rest ++ v)) = true := by
      rcases (nests_cons_cases h).2 with ⟨-, ho⟩ | ⟨ho, -⟩ | ⟨o', outer, hp', -, -⟩
      · simpa using ho
      · exact absurd ((of_not_mem_brackets ho).1.symm.trans (isOpenBracket_of_pairs hp)) (by decide)
      · exact absurd ((isOpenBracket_eq_false_of_pairs hp').symm.trans (isOpenBracket_of_pairs hp))
          (by decide)
    rcases (nests_cons_cases (ihinner hinner)).2 with ⟨ho, -⟩ | ⟨hc, -⟩ | ⟨o', outer, -, heq, hcs⟩
    · exact absurd (ho.symm.trans (isOpenBracket_eq_false_of_pairs hp)) (by decide)
    · exact absurd ((opener?_eq_some_iff.2 hp).symm.trans (of_not_mem_brackets hc).2) (by simp)
    · obtain ⟨-, rfl⟩ := List.cons.inj heq
      exact ihrest hcs

/-- A comma is the only delimiter that stands within a word. -/
theorem not_isDelimiter_or_comma_of_nests {opened cs : List Char} (h : nests opened cs = true) :
    ∀ c ∈ cs, isDelimiter c = false ∨ c = ',' := by
  induction cs generalizing opened with
  | nil => simp
  | cons c cs ih =>
    obtain ⟨hc, hcs⟩ := nests_cons_cases h
    refine List.forall_mem_cons.2 ⟨?_, ?_⟩
    · cases hd : isDelimiter c with
      | false => exact Or.inl rfl
      | true => exact Or.inr (hc hd).1
    · rcases hcs with ⟨-, hcs⟩ | ⟨-, hcs⟩ | ⟨o, outer, -, -, hcs⟩ <;> exact ih hcs

/-- A text that nests is a word wherever a word may stop. -/
theorem isWordPiece_of_nests {w after : List Char} (hne : w ≠ []) (hw : nests [] w = true)
    (hafter : StopsWord after) : IsWordPiece w after where
  ne_nil := hne
  balanced := balanced_of_nests hw
  no_delimiter c hc := by
    rcases not_isDelimiter_or_comma_of_nests hw c hc with h | rfl
    · simp only [isDelimiter, isQuote, Bool.or_eq_false_iff, decide_eq_false_iff_not] at h
      simp [h]
    · decide
  comma_inside u v heq hu := by
    rw [heq] at hw
    exact ((nests_cons_cases (nests_of_append hu hw)).1 (by decide)).2 rfl
  maximal := hafter

/-! ## Quoted strings -/

/-- The text between two quotes stands for the value. A backslash before the quote or another
backslash is dropped; before any other character it stands for itself. -/
inductive Unescapes (quote : Char) : List Char → List Char → Prop
  | nil : Unescapes quote [] []
  | plain {c : Char} {body value : List Char} : c ≠ quote → c ≠ '\\' → Unescapes quote body value →
      Unescapes quote (c :: body) (c :: value)
  | escaped {c : Char} {body value : List Char} : c = quote ∨ c = '\\' →
      Unescapes quote body value → Unescapes quote ('\\' :: c :: body) (c :: value)
  | kept {c : Char} {body value : List Char} : c ≠ quote → c ≠ '\\' →
      Unescapes quote body value → Unescapes quote ('\\' :: c :: body) ('\\' :: c :: value)

/-- A quoted body stands for what is left without its escapes. -/
theorem unescapes_unescape {quote : Char} {body : List Char}
    (h : isQuotedBody quote body = true) : Unescapes quote body (unescape quote body) := by
  fun_induction isQuotedBody quote body with
  | case1 => exact .nil
  | case2 c =>
    obtain ⟨hq, hc⟩ : c ≠ quote ∧ c ≠ '\\' := by simpa using h
    exact .plain hq hc .nil
  | case3 d cs ih =>
    rw [unescape, if_pos rfl]
    split
    · next hd => exact .escaped hd (ih h)
    · next hd => exact .kept (fun he => hd (Or.inl he)) (fun he => hd (Or.inr he)) (ih h)
  | case4 c d cs hc ih =>
    obtain ⟨hq, hcs⟩ : c ≠ quote ∧ isQuotedBody quote (d :: cs) = true := by simpa using h
    rw [unescape, if_neg hc]
    exact .plain hq hc (ih hcs)

/-- What stands for a text can be put between quotes. -/
theorem isQuotedBody_of_unescapes {quote : Char} {body value : List Char}
    (h : Unescapes quote body value) : isQuotedBody quote body = true := by
  induction h with
  | nil => rfl
  | @plain c body value hq hc _ ih =>
    cases body with
    | nil => simp [isQuotedBody, hq, hc]
    | cons d body => simpa [isQuotedBody, hq, hc] using ih
  | escaped _ _ ih => simpa [isQuotedBody] using ih
  | kept _ _ _ ih => simpa [isQuotedBody] using ih

/-! ## Occurrences -/

/-- A piece of a text, with what stands before and behind it, read as a symbol. -/
structure Occurrence where
  before : List Char
  piece : List Char
  after : List Char
  symbol : Symbol

namespace Occurrence

/-- The text in which a piece occurs. -/
def text (o : Occurrence) : List Char :=
  o.before ++ o.piece ++ o.after

/-- The offset of the piece. -/
def start (o : Occurrence) : Nat :=
  byteLength o.before

/-- The offset behind the piece. -/
def stop (o : Occurrence) : Nat :=
  byteLength (o.before ++ o.piece)

/-- The token of an occurrence, at the byte where its piece starts. -/
def token (o : Occurrence) : Token :=
  ⟨o.symbol, o.start⟩

/-- The piece spells the symbol. -/
def IsSpelled (o : Occurrence) : Prop :=
  match o.symbol with
  | .openParen => o.piece = ['(']
  | .closeParen => o.piece = [')']
  | .comma => o.piece = [',']
  | .quoted value quote => isQuote quote = true ∧
      ∃ body, o.piece = quote :: (body ++ [quote]) ∧ Unescapes quote body value.toList
  | .word w => o.piece = w.toList ∧ IsWordPiece o.piece o.after

theorem stop_eq (o : Occurrence) : o.stop = o.start + byteLength o.piece :=
  byteLength_append ..

end Occurrence

/-- The occurrences tile `rest`, the part of a text behind `before` : they spell their symbols, do
not overlap, and every character of `rest` outside them is blank. -/
structure Tiles (before rest : List Char) (os : List Occurrence) : Prop where
  text_eq : ∀ o ∈ os, o.text = before ++ rest
  isSpelled : ∀ o ∈ os, o.IsSpelled
  le_start : ∀ o ∈ os, byteLength before ≤ o.start
  apart : os.Pairwise fun o p => o.stop ≤ p.start
  blank_or_inside : ∀ u c v, rest = u ++ c :: v → isBlank c = true ∨
    ∃ o ∈ os, o.start ≤ byteLength (before ++ u) ∧ byteLength (before ++ u ++ [c]) ≤ o.stop

theorem Occurrence.IsSpelled.ne_nil {o : Occurrence} (h : o.IsSpelled) : o.piece ≠ [] := by
  obtain ⟨before, piece, after, symbol⟩ := o
  cases symbol with
  | word w => exact h.2.ne_nil
  | quoted v q =>
    obtain ⟨-, body, hbody, -⟩ := h
    exact fun hnil => List.cons_ne_nil _ _ (hbody.symm.trans hnil)
  | openParen | closeParen | comma =>
    exact fun hnil => List.cons_ne_nil _ _ (Eq.trans (Eq.symm h) hnil)

theorem tiles_nil (before : List Char) : Tiles before [] [] where
  text_eq := by simp
  isSpelled := by simp
  le_start := by simp
  apart := List.Pairwise.nil
  blank_or_inside u c v h := by simp at h

/-- A blank in front belongs to no piece. -/
theorem Tiles.blank {before rest : List Char} {os : List Occurrence} {c : Char}
    (hc : isBlank c = true) (h : Tiles (before ++ [c]) rest os) : Tiles before (c :: rest) os where
  text_eq o ho := by simpa using h.text_eq o ho
  isSpelled := h.isSpelled
  le_start o ho := by
    have := h.le_start o ho
    rw [byteLength_append] at this
    omega
  apart := h.apart
  blank_or_inside u d v heq := by
    cases u with
    | nil =>
      obtain ⟨rfl, -⟩ := List.cons.inj heq
      exact Or.inl hc
    | cons e u =>
      obtain ⟨rfl, hrest⟩ := List.cons.inj heq
      simpa using h.blank_or_inside u d v hrest

theorem Tiles.cons {before piece after : List Char} {s : Symbol} {os : List Occurrence}
    (hs : (⟨before, piece, after, s⟩ : Occurrence).IsSpelled)
    (h : Tiles (before ++ piece) after os) :
    Tiles before (piece ++ after) (⟨before, piece, after, s⟩ :: os) where
  text_eq := by
    refine List.forall_mem_cons.2 ⟨?_, fun o ho => ?_⟩
    · rw [Occurrence.text, List.append_assoc]
    · rw [h.text_eq o ho, List.append_assoc]
  isSpelled := List.forall_mem_cons.2 ⟨hs, h.isSpelled⟩
  le_start := by
    refine List.forall_mem_cons.2 ⟨Nat.le_refl _, fun o ho => ?_⟩
    have := h.le_start o ho
    rw [byteLength_append] at this
    omega
  apart := List.pairwise_cons.2 ⟨h.le_start, h.apart⟩
  blank_or_inside u c v heq := by
    rcases List.append_eq_append_iff.1 heq with ⟨u', rfl, hafter⟩ | ⟨p, hpiece, htail⟩
    · rcases h.blank_or_inside u' c v hafter with hc | ⟨o, ho, hin⟩
      · exact Or.inl hc
      · refine Or.inr ⟨o, List.mem_cons_of_mem _ ho, ?_⟩
        simpa using hin
    · cases p with
      | nil =>
        -- the piece ends right before the character
        rw [List.append_nil] at hpiece
        subst hpiece
        rcases h.blank_or_inside [] c v (by simpa using htail.symm) with hc | ⟨o, ho, hin⟩
        · exact Or.inl hc
        · refine Or.inr ⟨o, List.mem_cons_of_mem _ ho, ?_⟩
          simpa using hin
      | cons d p =>
        obtain ⟨rfl, -⟩ := List.cons.inj htail
        refine Or.inr ⟨_, List.mem_cons_self .., ?_, ?_⟩
        · simp [Occurrence.start]
        · rw [Occurrence.stop, hpiece]
          simp only [byteLength_append, byteLength_cons, byteLength_nil]
          omega

theorem Lexeme.isSpelled {piece rest : List Char} {s : Symbol} (h : Lexeme piece s rest)
    (before : List Char) : (⟨before, piece, rest, s⟩ : Occurrence).IsSpelled := by
  cases h with
  | mark hm => rcases eq_of_mark? hm with ⟨rfl, rfl⟩ | ⟨rfl, rfl⟩ | ⟨rfl, rfl⟩ <;> exact rfl
  | quoted hq hbody => exact ⟨hq, _, rfl, by simpa using unescapes_unescape hbody⟩
  | word hne hw hstop => exact ⟨by simp, isWordPiece_of_nests hne hw hstop⟩

/-- Each token starts behind the ones before it. -/
theorem pairwise_position_of_lexes {pos : Nat} {cs : List Char} {ts : List Token}
    (h : Lexes pos cs ts) : (ts.map Token.position).Pairwise (· < ·) := by
  induction h using Lexes.inductionOn with
  | done => exact List.Pairwise.nil
  | blank _ _ ih => exact ih
  | @lexeme pos piece s rest ts hpiece h ih =>
    refine List.pairwise_cons.2 ⟨fun p hp => ?_, ih⟩
    obtain ⟨t, ht, rfl⟩ := List.mem_map.1 hp
    have := le_position_of_lexes h t ht
    have := byteLength_pos (hpiece.isSpelled []).ne_nil
    simp only at this ⊢
    omega

/-- The tokens of a text tile it. -/
theorem exists_tiles_of_lexes {pos : Nat} {cs : List Char} {ts : List Token}
    (h : Lexes pos cs ts) : ∀ before, byteLength before = pos →
      ∃ os, ts = os.map Occurrence.token ∧ Tiles before cs os := by
  induction h using Lexes.inductionOn with
  | done => exact fun before _ => ⟨[], rfl, tiles_nil before⟩
  | @blank pos c cs ts hc _ ih =>
    intro before hpos
    obtain ⟨os, rfl, hos⟩ := ih (before ++ [c]) (by simp [hpos])
    exact ⟨os, rfl, hos.blank hc⟩
  | lexeme hpiece _ ih =>
    rintro before rfl
    obtain ⟨os, rfl, hos⟩ := ih _ (byteLength_append ..)
    exact ⟨_, rfl, hos.cons (hpiece.isSpelled before)⟩

/-- The offsets of occurrences that do not overlap are in order, and below every bound on where
they end. -/
theorem pairwise_start_append {os : List Occurrence} {n : Nat} (hs : ∀ o ∈ os, o.IsSpelled)
    (ha : os.Pairwise fun o p => o.stop ≤ p.start) (hn : ∀ o ∈ os, o.stop ≤ n) :
    (os.map Occurrence.start ++ [n]).Pairwise (· < ·) := by
  have hlt : ∀ o ∈ os, o.start < o.stop := by
    intro o ho
    have := byteLength_pos (hs o ho).ne_nil
    rw [o.stop_eq]
    omega
  refine List.pairwise_append.2 ⟨List.pairwise_map.2 ?_, List.pairwise_singleton .., ?_⟩
  · exact ha.imp_of_mem fun ho _ hle => Nat.lt_of_lt_of_le (hlt _ ho) hle
  · intro a ha m hm
    obtain ⟨o, ho, rfl⟩ := List.mem_map.1 ha
    obtain rfl := List.mem_singleton.1 hm
    exact Nat.lt_of_lt_of_le (hlt o ho) (hn o ho)

/-! ## The tokens of a text -/

/-- A token stands in one way only. -/
theorem Occurrence.eq_of_token {o p : Occurrence} (htext : o.text = p.text) (ho : o.IsSpelled)
    (hp : p.IsSpelled) (htoken : o.token = p.token) : o = p := by
  obtain ⟨before, piece, after, s⟩ := o
  obtain ⟨before', piece', after', s'⟩ := p
  obtain ⟨rfl, hstart⟩ : s = s' ∧ byteLength before = byteLength before' := Token.mk.inj htoken
  simp only [Occurrence.text, List.append_assoc] at htext
  obtain ⟨rfl, hrest⟩ := eq_of_byteLength_eq htext hstart
  have hpiece : piece = piece' := by
    cases s with
    | word w => exact ho.1.trans hp.1.symm
    | openParen | closeParen | comma => exact Eq.trans ho (Eq.symm hp)
    | quoted value quote =>
      obtain ⟨hq, body, rfl, hbody⟩ := ho
      obtain ⟨-, body', rfl, hbody'⟩ := hp
      -- the scanner finds one closing quote
      have hsplit : ∀ {b rest : List Char}, Unescapes quote b value.toList →
          splitQuoted quote (b ++ quote :: rest) = some (b, rest) := fun hb =>
        (splitQuoted_eq_some_iff (ne_backslash_of_isQuote hq)).2
          ⟨rfl, isQuotedBody_of_unescapes hb⟩
      simp only [List.cons_append, List.append_assoc, List.nil_append, List.cons.injEq,
        true_and] at hrest
      have heq := (hsplit hbody).symm.trans ((congrArg _ hrest).trans (hsplit hbody'))
      obtain ⟨rfl, -⟩ := Prod.mk.inj (Option.some.inj heq)
      rfl
  subst hpiece
  rw [List.append_cancel_left hrest]

/-- The occurrences are the tokens of the text, in order, where they stand in it. -/
structure TokensOf (text : String) (os : List Occurrence) : Prop where
  lex_eq : lex text = .ok ⟨os.map Occurrence.token, byteLength text.toList⟩
  text_eq : ∀ o ∈ os, o.text = text.toList
  isSpelled : ∀ o ∈ os, o.IsSpelled

/-- Whatever can be lexed has its occurrences. -/
theorem exists_tokensOf {text : String} {tokens : Tokens} (h : lex text = .ok tokens) :
    ∃ os, TokensOf text os := by
  obtain ⟨ts, hlex, rfl⟩ := map_eq_ok_iff.1 h
  obtain ⟨os, rfl, hos⟩ := exists_tiles_of_lexes (lexFrom_eq_ok_iff.1 hlex) [] byteLength_nil
  exact ⟨os, h, hos.text_eq, hos.isSpelled⟩

/-- A text has its occurrences in one way only. -/
theorem TokensOf.unique {text : String} {os ps : List Occurrence} (hos : TokensOf text os)
    (hps : TokensOf text ps) : os = ps := by
  have hlists : os.map Occurrence.token = ps.map Occurrence.token :=
    congrArg Tokens.list (Except.ok.inj (hos.lex_eq.symm.trans hps.lex_eq))
  refine List.ext_getElem (by simpa using congrArg List.length hlists) fun i hi hi' => ?_
  have htoken : os[i].token = ps[i].token := by
    have := congrArg (·[i]?) hlists
    simpa [hi, hi'] using this
  have ho := List.getElem_mem hi
  have hp := List.getElem_mem hi'
  exact Occurrence.eq_of_token ((hos.text_eq _ ho).trans (hps.text_eq _ hp).symm)
    (hos.isSpelled _ ho) (hps.isSpelled _ hp) htoken

/-- The lexer loses and invents nothing. The offsets of its tokens and the end of the text are
strictly in order; the end is the length of the text in bytes, and every offset lies between two
characters. The tokens are pieces of the text that spell their symbols and do not overlap, and every
character outside them is blank. -/
theorem lex_tiles {text : String} {tokens : Tokens} (h : lex text = .ok tokens) :
    (tokens.list.map Token.position ++ [tokens.stop]).Pairwise (· < ·) ∧
      tokens.stop = text.utf8ByteSize ∧
      (∀ t ∈ tokens.list, (⟨t.position⟩ : String.Pos.Raw).IsValid text) ∧
      ∃ os, tokens.list = os.map Occurrence.token ∧ Tiles [] text.toList os := by
  obtain ⟨ts, hlex, rfl⟩ := map_eq_ok_iff.1 h
  obtain ⟨os, rfl, hos⟩ := exists_tiles_of_lexes (lexFrom_eq_ok_iff.1 hlex) [] byteLength_nil
  have htext : ∀ o ∈ os, o.text = text.toList := hos.text_eq
  refine ⟨?_, ?_, ?_, os, rfl, hos⟩
  · rw [List.map_map]
    refine pairwise_start_append hos.isSpelled hos.apart fun o ho => ?_
    have hlen : byteLength text.toList = o.stop + byteLength o.after := by
      rw [← htext o ho, Occurrence.text, byteLength_append, Occurrence.stop]
    exact hlen ▸ Nat.le_add_right ..
  · rw [← utf8ByteSize_ofList, String.ofList_toList]
  · intro t ht
    obtain ⟨o, ho, rfl⟩ := List.mem_map.1 ht
    refine String.Pos.Raw.isValid_iff_exists_append.2
      ⟨String.ofList o.before, String.ofList (o.piece ++ o.after), ?_, ?_⟩
    · rw [← String.ofList_append, ← List.append_assoc]
      exact ((congrArg String.ofList (htext o ho)).trans String.ofList_toList).symm
    · exact congrArg String.Pos.Raw.mk (utf8ByteSize_ofList o.before).symm

/-- A text with blanks, letters of two bytes, a comma inside brackets and an escaped quote. -/
theorem lex_tiles_twoByteLetters :
    lex "é( ñ.{x,[y,]} ,'it\\'s')" = .ok ⟨[⟨.word "é", 0⟩, ⟨.openParen, 2⟩, ⟨.word "ñ.{x,[y,]}", 4⟩,
        ⟨.comma, 16⟩, ⟨.quoted "it's" '\'', 17⟩, ⟨.closeParen, 24⟩], 25⟩ ∧
      [0, 2, 4, 16, 17, 24, 25].Pairwise (· < ·) ∧
      25 = "é( ñ.{x,[y,]} ,'it\\'s')".utf8ByteSize ∧
      ∃ os, [(⟨.word "é", 0⟩ : Token), ⟨.openParen, 2⟩, ⟨.word "ñ.{x,[y,]}", 4⟩, ⟨.comma, 16⟩,
          ⟨.quoted "it's" '\'', 17⟩, ⟨.closeParen, 24⟩] = os.map Occurrence.token ∧
        Tiles [] "é( ñ.{x,[y,]} ,'it\\'s')".toList os := by
  have hlex : (lexFrom 0 "é( ñ.{x,[y,]} ,'it\\'s')".toList).toOption = some
      [⟨.word "é", 0⟩, ⟨.openParen, 2⟩, ⟨.word "ñ.{x,[y,]}", 4⟩, ⟨.comma, 16⟩,
        ⟨.quoted "it's" '\'', 17⟩, ⟨.closeParen, 24⟩] := by
    decide +kernel
  have hl : lex "é( ñ.{x,[y,]} ,'it\\'s')" = .ok ⟨[⟨.word "é", 0⟩, ⟨.openParen, 2⟩,
      ⟨.word "ñ.{x,[y,]}", 4⟩, ⟨.comma, 16⟩, ⟨.quoted "it's" '\'', 17⟩, ⟨.closeParen, 24⟩], 25⟩ :=
    map_eq_ok_iff.2 ⟨_, toOption_eq_some_iff.1 hlex, by decide⟩
  obtain ⟨hpos, hstop, -, hos⟩ := lex_tiles hl
  exact ⟨hl, hpos, hstop, hos⟩

end SeriesRender.Target
