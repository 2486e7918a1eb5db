import SeriesRender.Proofs.Target.Grammar

/-!
# Reading a canonical text back

`Expr.WellFormed` holds of the expressions that a text can spell : names are identifiers, path
patterns and numbers are words that are classified as what they are, strings are in quotes.
Whatever the grammar spells with symbols of the lexer is such an expression
(`wellFormed_of_spells`). Its canonical text has tokens that spell it (`lexes_chars`), so the
parser reads the text back as the same expression, at every depth limit that the expression
respects (`parse_text`).
-/

namespace SeriesRender.Target

open Text

/-! ## Well-formed expressions -/

/-- Whether a text can spell the literal. -/
def Literal.WellFormed : Literal → Prop
  | .number x text => IsWord text ∧ classifyWord text = .literal (.number x text)
  | .string _ quote => isQuote quote = true
  | .boolean _ => True

mutual

/-- Whether a text can spell the expression. -/
def Expr.WellFormed : Expr → Prop
  | .selector pattern => IsWord pattern ∧ classifyWord pattern = .selector pattern
  | .literal l => l.WellFormed
  | .call name args => isIdentifier name.toList = true ∧ Expr.AllWellFormed args

/-- All trees of a list are well formed. -/
def Expr.AllWellFormed : List Expr → Prop
  | [] => True
  | e :: es => e.WellFormed ∧ Expr.AllWellFormed es

end

/-- A word that is neither a number nor a boolean is a selector. -/
theorem classifyWord_of_none {w : String} (ht : w.toList.map Char.toLower ≠ "true".toList)
    (hf : w.toList.map Char.toLower ≠ "false".toList) (hx : wordNumber? w.toList = none) :
    classifyWord w = .selector w := by
  rw [Ne, ← toLower_eq_iff] at ht hf
  rw [classifyWord, if_neg ht, if_neg hf, hx]

/-- A word that is a number is a literal. -/
theorem classifyWord_of_some {w : String} {x : Float}
    (ht : w.toList.map Char.toLower ≠ "true".toList)
    (hf : w.toList.map Char.toLower ≠ "false".toList) (hx : wordNumber? w.toList = some x) :
    classifyWord w = .literal (.number x w) := by
  rw [Ne, ← toLower_eq_iff] at ht hf
  rw [classifyWord, if_neg ht, if_neg hf, hx]

theorem classifyWord_boolean (b : Bool) :
    classifyWord (Literal.boolean b).text = .literal (.boolean b) := by
  cases b with
  | false =>
    have ht : ¬(Literal.boolean false).text.toLower = "true" := by
      rw [toLower_eq_iff]
      decide
    have hf : (Literal.boolean false).text.toLower = "false" := toLower_eq_iff.2 (by decide)
    rw [classifyWord, if_neg ht, if_pos hf]
  | true =>
    have ht : (Literal.boolean true).text.toLower = "true" := toLower_eq_iff.2 (by decide)
    rw [classifyWord, if_pos ht]

/-- Every word is classified as a well-formed tree. -/
theorem wellFormed_classifyWord {w : String} (h : IsWord w) : (classifyWord w).WellFormed := by
  rcases classifyWord_cases w with ⟨b, hc⟩ | ⟨x, hc⟩ | hc
  · rw [hc]
    trivial
  · rw [hc]
    exact ⟨h, hc⟩
  · rw [hc]
    exact ⟨h, hc⟩

mutual

/-- What is spelled by symbols that can be written is well formed. -/
theorem wellFormed_of_spells {ss : List Symbol} {e : Expr} (h : Spells ss e)
    (hss : ∀ s ∈ ss, s.Lexical) : e.WellFormed := by
  cases h with
  | word w => exact wellFormed_classifyWord (hss _ (List.mem_singleton_self _))
  | quoted v q => exact hss (.quoted v q) (List.mem_singleton_self _)
  | call hid hall =>
    exact ⟨hid, allWellFormed_of_spellsAll hall fun s hs => hss s (by simp [hs])⟩

theorem allWellFormed_of_spellsAll {ss : List Symbol} {es : List Expr} (h : SpellsAll ss es)
    (hss : ∀ s ∈ ss, s.Lexical) : Expr.AllWellFormed es := by
  cases h with
  | nil => trivial
  | one h => exact ⟨wellFormed_of_spells h hss, trivial⟩
  | cons h hall =>
    exact ⟨wellFormed_of_spells h fun s hs => hss s (by simp [hs]),
      allWellFormed_of_spellsAll hall fun s hs => hss s (by simp [hs])⟩

end

/-! ## The tokens of a canonical text -/

/-- An escaped text can be put between quotes. -/
theorem isQuotedBody_escape (quote : Char) (value : List Char) :
    isQuotedBody quote (escape quote value) = true := by
  induction value with
  | nil => rfl
  | cons c cs ih =>
    rw [escape]
    split
    · simpa [isQuotedBody] using ih
    · next h =>
      rw [not_or] at h
      cases hcs : escape quote cs with
      | nil => simp [isQuotedBody, h]
      | cons d ds => simpa [isQuotedBody, h, hcs] using ih

/-- Taking the escapes away again gives the text. -/
theorem unescape_escape (quote : Char) (value : List Char) :
    unescape quote (escape quote value) = value := by
  induction value with
  | nil => rfl
  | cons c cs ih =>
    rw [escape]
    split
    · next h => simp [unescape, h, ih]
    · next h =>
      rw [not_or] at h
      cases hcs : escape quote cs with
      | nil =>
        rw [hcs] at ih
        simp [unescape, ← ih]
      | cons d ds =>
        rw [hcs] at ih
        simp [unescape, h, ih]

/-- Where the characters of an identifier lie : among them are no blank, mark, quote or bracket. -/
theorem toNat_of_isIdentifierChar {c : Char} (h : isIdentifierChar c = true) :
    48 ≤ c.toNat ∧ c.toNat ≤ 122 ∧ c.toNat ≠ 91 ∧ c.toNat ≠ 93 := by
  delta isIdentifierChar Char.isAlphanum Char.isAlpha Char.isUpper Char.isLower Char.isDigit at h
  simp only [Bool.or_eq_true, Bool.and_eq_true, decide_eq_true_eq, UInt32.le_iff_toNat_le,
    ge_iff_le] at h
  rcases h with ((h | h) | h) | rfl
  · simp at h
    omega
  · simp at h
    omega
  · simp at h
    omega
  · decide

theorem nests_of_isIdentifierChar : ∀ {cs : List Char}, (∀ c ∈ cs, isIdentifierChar c = true) →
    nests [] cs = true
  | [], _ => rfl
  | c :: cs, h => by
    rw [List.forall_mem_cons] at h
    have hc := toNat_of_isIdentifierChar h.1
    have hne : ∀ d : Char, d.toNat < 48 ∨ 122 < d.toNat ∨ d.toNat = 91 ∨ d.toNat = 93 → c ≠ d := by
      rintro d hd rfl
      omega
    have hblank : isBlank c = false := by
      simp [isBlank]
      omega
    have hdelim : isDelimiter c = false := by
      simp [isDelimiter, isQuote, hblank, hne '(' (by decide), hne ')' (by decide),
        hne ',' (by decide), hne '\'' (by decide), hne '"' (by decide)]
    have hopen : isOpenBracket c = false := by
      simp [isOpenBracket, hne '{' (by decide), hne '[' (by decide)]
    have hclose : opener? c = none := by
      simp [opener?, hne '}' (by decide), hne ']' (by decide)]
    rw [nests, hdelim, hopen, hclose]
    exact nests_of_isIdentifierChar h.2

theorem isWord_of_isIdentifier {name : String} (h : isIdentifier name.toList = true) :
    IsWord name := by
  rw [isWord_iff]
  cases hcs : name.toList with
  | nil => simp [hcs, isIdentifier] at h
  | cons c cs =>
    rw [hcs, isIdentifier, Bool.and_eq_true, List.all_eq_true] at h
    refine ⟨by simp, nests_of_isIdentifierChar (List.forall_mem_cons.2 ⟨?_, h.2⟩)⟩
    have hc := h.1
    simp only [isIdentifierStart, Bool.or_eq_true] at hc
    rcases hc with hc | hc
    · simp [isIdentifierChar, Char.isAlphanum, hc]
    · simp [isIdentifierChar, hc]

/-- A word is lexed as one token in front of anything that stops it. -/
theorem lexes_word {w : String} (hw : IsWord w) {pos : Nat} {rest : List Char} {us : List Token}
    (hr : StopsWord rest) (h : Lexes (pos + byteLength w.toList) rest us) :
    Lexes pos (w.toList ++ rest) (⟨.word w, pos⟩ :: us) := by
  obtain ⟨hne, hn⟩ := isWord_iff.1 hw
  have := Lexes.word hne hn hr h
  rwa [String.ofList_toList] at this

/-- A literal is lexed as tokens that spell it. -/
theorem lexes_literal {l : Literal} (hl : l.WellFormed) (pos : Nat) :
    ∃ ts, Spells (ts.map Token.symbol) (.literal l) ∧ ∀ rest us, StopsWord rest →
      Lexes (pos + byteLength l.chars) rest us → Lexes pos (l.chars ++ rest) (ts ++ us) := by
  cases l with
  | number x text =>
    obtain ⟨hw, hc⟩ := hl
    refine ⟨[⟨.word text, pos⟩], ?_, fun rest us hr h => lexes_word hw hr h⟩
    rw [← hc]
    exact .word text
  | string v q =>
    refine ⟨[⟨.quoted v q, pos⟩], .quoted v q, fun rest us _ h => ?_⟩
    have hq : q.utf8Size = 1 := by
      rcases eq_of_isQuote hl with rfl | rfl <;> decide
    have hlen : pos + byteLength (Literal.string v q).chars =
        pos + byteLength (escape q v.toList) + 2 := by
      simp only [Literal.chars, byteLength_cons, byteLength_append, byteLength_nil, hq]
      omega
    rw [hlen] at h
    have := Lexes.quoted hl (isQuotedBody_escape q v.toList) h
    rw [unescape_escape, String.ofList_toList] at this
    simpa [Literal.chars] using this
  | boolean b =>
    refine ⟨[⟨.word (Literal.boolean b).text, pos⟩], ?_, fun rest us hr h => ?_⟩
    · rw [← classifyWord_boolean b]
      exact .word _
    · have hn : nests [] (Literal.boolean b).chars = true := by
        cases b <;> decide
      exact .word (by cases b <;> simp [Literal.chars]) hn hr h

theorem listChars_singleton (e : Expr) : Expr.listChars [e] = e.chars := by
  simp [Expr.listChars, Expr.tailChars]

theorem listChars_cons_cons (e d : Expr) (es : List Expr) :
    Expr.listChars (e :: d :: es) = e.chars ++ ',' :: Expr.listChars (d :: es) := by
  simp [Expr.listChars, Expr.tailChars]

mutual

/-- The canonical text of an expression has tokens that spell it, whatever follows the text. -/
theorem lexes_chars {e : Expr} (he : e.WellFormed) (pos : Nat) :
    ∃ ts, Spells (ts.map Token.symbol) e ∧ ∀ rest us, StopsWord rest →
      Lexes (pos + byteLength e.chars) rest us → Lexes pos (e.chars ++ rest) (ts ++ us) := by
  cases e with
  | selector pattern =>
    obtain ⟨hw, hc⟩ := he
    refine ⟨[⟨.word pattern, pos⟩], ?_, fun rest us hr h => lexes_word hw hr h⟩
    rw [← hc]
    exact .word pattern
  | literal l => exact lexes_literal he pos
  | call name args =>
    obtain ⟨hid, hargs⟩ := he
    obtain ⟨ts, hts, hlex⟩ := lexes_listChars hargs (pos + byteLength name.toList + 1)
    refine ⟨⟨.word name, pos⟩ :: ⟨.openParen, pos + byteLength name.toList⟩ :: (ts ++
        [⟨.closeParen, pos + byteLength name.toList + 1 + byteLength (Expr.listChars args)⟩]),
      ?_, fun rest us _ h => ?_⟩
    · have := Spells.call hid hts
      simpa using this
    · have hlen : pos + byteLength (Expr.call name args).chars =
          pos + byteLength name.toList + 1 + byteLength (Expr.listChars args) + 1 := by
        simp only [Expr.chars, byteLength_append, byteLength_cons, byteLength_nil,
          utf8Size_of_mark? (c := '(') rfl, utf8Size_of_mark? (c := ')') rfl]
        omega
      rw [hlen] at h
      have hclose := Lexes.mark (c := ')') rfl h
      have hopen := Lexes.mark (c := '(') rfl (hlex _ _ (by simp [isDelimiter]) hclose)
      have := lexes_word (isWord_of_isIdentifier hid) (by simp [isDelimiter]) hopen
      simpa [Expr.chars] using this

/-- Arguments with commas between them are lexed as tokens that spell them all. -/
theorem lexes_listChars {es : List Expr} (hes : Expr.AllWellFormed es) (pos : Nat) :
    ∃ ts, SpellsAll (ts.map Token.symbol) es ∧ ∀ rest us, StopsWord rest →
      Lexes (pos + byteLength (Expr.listChars es)) rest us →
      Lexes pos (Expr.listChars es ++ rest) (ts ++ us) := by
  match es with
  | [] => exact ⟨[], .nil, fun rest us _ h => h⟩
  | [e] =>
    obtain ⟨ts, hts, hlex⟩ := lexes_chars hes.1 pos
    refine ⟨ts, .one hts, fun rest us hr h => ?_⟩
    rw [listChars_singleton] at h ⊢
    exact hlex rest us hr h
  | e :: d :: es =>
    obtain ⟨ts, hts, hlex⟩ := lexes_chars hes.1 pos
    obtain ⟨us, hus, hlexs⟩ := lexes_listChars hes.2 (pos + byteLength e.chars + 1)
    refine ⟨ts ++ ⟨.comma, pos + byteLength e.chars⟩ :: us, ?_, fun rest vs hr h => ?_⟩
    · have := SpellsAll.cons hts hus
      simpa using this
    · have hlen : pos + byteLength (Expr.listChars (e :: d :: es)) =
          pos + byteLength e.chars + 1 + byteLength (Expr.listChars (d :: es)) := by
        rw [listChars_cons_cons, byteLength_append, byteLength_cons,
          utf8Size_of_mark? (c := ',') rfl]
        omega
      rw [hlen] at h
      have hcomma := Lexes.mark (c := ',') rfl (hlexs rest vs hr h)
      have := hlex _ _ (by simp [isDelimiter]) hcomma
      simpa [listChars_cons_cons] using this

end

/-- The parser reads a canonical text back. -/
theorem parse_text_of_wellFormed {limit : Nat} {e : Expr} (he : e.WellFormed)
    (hd : e.depth ≤ limit) : parse limit e.text = .ok e := by
  obtain ⟨ts, hts, hlex⟩ := lexes_chars he 0
  have hl := hlex [] [] stopsWord_nil (.done _)
  rw [List.append_nil, List.append_nil] at hl
  refine parse_eq_ok_iff.2 ⟨ts, ?_, hts, hd⟩
  rwa [Expr.text, String.toList_ofList]

/-- What the parser yields is well-formed and respects the limit. -/
theorem wellFormed_of_parse {limit : Nat} {target : String} {e : Expr}
    (h : parse limit target = .ok e) : e.WellFormed ∧ e.depth ≤ limit := by
  obtain ⟨ts, hlex, hts, hd⟩ := parse_eq_ok_iff.1 h
  refine ⟨wellFormed_of_spells hts fun s hs => ?_, hd⟩
  obtain ⟨t, ht, rfl⟩ := List.mem_map.1 hs
  exact lexical_of_lexes hlex t ht

/-- Reading and writing are inverse. The canonical text of what has been read is read as the same
expression at the same limit; a well-formed expression is read back from its canonical text at
every limit it respects. -/
theorem parse_text (limit : Nat) :
    (∀ (target : String) (e : Expr), parse limit target = .ok e → parse limit e.text = .ok e) ∧
      ∀ e : Expr, e.WellFormed → e.depth ≤ limit → parse limit e.text = .ok e := by
  refine ⟨fun target e h => ?_, fun e => parse_text_of_wellFormed⟩
  obtain ⟨he, hd⟩ := wellFormed_of_parse h
  exact parse_text_of_wellFormed he hd

/-- Both directions at a target with blanks, nested calls, a comma inside braces, a number whose
spelling is not the shortest and an escaped quote. -/
theorem parse_text_alias_scale :
    ∃ e : Expr, e = .call "alias" [.call "scale"
        [.selector "a.{x,y}", .literal (.number 0.5 "0.50")], .literal (.string "it's" '\'')] ∧
      parse 2 "alias( scale(a.{x,y}, 0.50) ,'it\\'s')" = .ok e ∧ parse 2 e.text = .ok e ∧
      e.WellFormed ∧ e.depth ≤ 2 ∧ parse 2 "alias(scale(a.{x,y},0.50),'it\\'s')" = .ok e := by
  have hlex : (lexFrom 0 "alias( scale(a.{x,y}, 0.50) ,'it\\'s')".toList).toOption = some
      [⟨.word "alias", 0⟩, ⟨.openParen, 5⟩, ⟨.word "scale", 7⟩, ⟨.openParen, 12⟩,
        ⟨.word "a.{x,y}", 13⟩, ⟨.comma, 20⟩, ⟨.word "0.50", 22⟩, ⟨.closeParen, 26⟩, ⟨.comma, 28⟩,
        ⟨.quoted "it's" '\'', 29⟩, ⟨.closeParen, 36⟩] := by
    decide +kernel
  have hselector : classifyWord "a.{x,y}" = .selector "a.{x,y}" :=
    classifyWord_of_none (by decide) (by decide) (by decide)
  have hnumber : classifyWord "0.50" = .literal (.number 0.5 "0.50") :=
    classifyWord_of_some (by decide) (by decide) (by decide +kernel)
  have hscale := SpellsAll.cons (.word "a.{x,y}") (.one (.word "0.50"))
  rw [hselector, hnumber] at hscale
  have halias := SpellsAll.cons (@Spells.call "scale" _ _ rfl hscale) (.one (.quoted "it's" '\''))
  have hparse := (@parse_eq_ok_iff 2 _ _).2 ⟨_, lexFrom_eq_ok_iff.1 (toOption_eq_some_iff.1 hlex),
    @Spells.call "alias" _ _ rfl halias, by decide⟩
  obtain ⟨he, hd⟩ := wellFormed_of_parse hparse
  refine ⟨_, rfl, hparse, (parse_text 2).1 _ _ hparse, he, hd, ?_⟩
  refine Eq.trans (congrArg (parse 2) ?_) ((parse_text 2).2 _ he hd)
  decide

end SeriesRender.Target
