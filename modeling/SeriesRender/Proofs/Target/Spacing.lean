import SeriesRender.Proofs.Target.Grammar
import SeriesRender.Proofs.Target.Occurrence

/-!
# Blanks between tokens

`Widens text` puts blanks into a text, wherever the offset is not inside a token (`InsideToken`) :
before the first token, behind the last one, and between any two. `parse_of_widens` says that the
wider text has the same symbols, and that the parser makes the same of it : the same expression, or
the same fault, which may stand elsewhere.

The lexer goes through both texts at the same time, lexeme by lexeme (`exists_lexes_of_widens`) : a
lexeme is found in the wider text as it is, with blanks before it at most (`Widens.exists_lexeme`).
The parser does not look at offsets but to report them (`run_congr`).
-/

namespace SeriesRender.Target

open Text

/-! ## Wider texts -/

/-- The offset is inside a token of the text : behind its first character and before its end. -/
def InsideToken (text : String) (n : Nat) : Prop :=
  ∃ os, TokensOf text os ∧ ∃ o ∈ os, o.start < n ∧ n < o.stop

/-- `ds` is `cs`, the text from an offset on, with blanks put in, none of them inside a token. -/
inductive Widens (text : String) : Nat → List Char → List Char → Prop
  | done {pos : Nat} : Widens text pos [] []
  | keep {pos : Nat} {c : Char} {cs ds : List Char} :
      Widens text (pos + c.utf8Size) cs ds → Widens text pos (c :: cs) (c :: ds)
  | blank {pos : Nat} {b : Char} {cs ds : List Char} : isBlank b = true → ¬InsideToken text pos →
      Widens text pos cs ds → Widens text pos cs (b :: ds)

/-- A position is inside a token if it is strictly between the ends of one piece. -/
theorem insideToken_iff {text : String} {os : List Occurrence} (hos : TokensOf text os) {n : Nat} :
    InsideToken text n ↔ ∃ o ∈ os, o.start < n ∧ n < o.stop := by
  constructor
  · rintro ⟨ps, hps, h⟩
    rwa [hos.unique hps]
  · exact fun h => ⟨os, hos, h⟩

namespace Widens

variable {text : String} {pos : Nat}

theorem isBlank_of_nil {ds : List Char} (h : Widens text pos [] ds) :
    ∀ b ∈ ds, isBlank b = true := by
  generalize hcs : ([] : List Char) = cs at h
  induction h with
  | done => simp
  | keep => cases hcs
  | blank hb _ _ ih => exact List.forall_mem_cons.2 ⟨hb, ih hcs⟩

/-- A character is kept, behind blanks at most. -/
theorem exists_keep {c : Char} {cs ds : List Char} (h : Widens text pos (c :: cs) ds) :
    ∃ bs es, ds = bs ++ c :: es ∧ (∀ b ∈ bs, isBlank b = true) ∧
      (bs ≠ [] → ¬InsideToken text pos) ∧ Widens text (pos + c.utf8Size) cs es := by
  generalize hcs : c :: cs = ccs at h
  induction h with
  | done => cases hcs
  | keep h =>
    obtain ⟨rfl, rfl⟩ := List.cons.inj hcs
    exact ⟨[], _, rfl, by simp, by simp, h⟩
  | @blank pos b _ _ hb hpos _ ih =>
    obtain ⟨bs, es, rfl, hbs, -, hes⟩ := ih hcs
    exact ⟨b :: bs, es, rfl, List.forall_mem_cons.2 ⟨hb, hbs⟩, fun _ => hpos, hes⟩

/-- What stands inside a token is kept as it is. -/
theorem exists_inside {piece cs ds : List Char}
    (hin : ∀ u v, piece = u ++ v → v ≠ [] → InsideToken text (pos + byteLength u))
    (h : Widens text pos (piece ++ cs) ds) :
    ∃ es, ds = piece ++ es ∧ Widens text (pos + byteLength piece) cs es := by
  induction piece generalizing pos ds with
  | nil => exact ⟨ds, rfl, h⟩
  | cons c piece ih =>
    obtain ⟨bs, es, rfl, -, hbs, hes⟩ := exists_keep h
    have hnil : bs = [] := Decidable.byContradiction fun hne => hbs hne (hin [] _ rfl (by simp))
    subst hnil
    have hpiece : ∀ u v, piece = u ++ v → v ≠ [] →
        InsideToken text (pos + c.utf8Size + byteLength u) := by
      rintro u v rfl hv
      have := hin (c :: u) v rfl hv
      rwa [byteLength_cons, ← Nat.add_assoc] at this
    obtain ⟨fs, rfl, hfs⟩ := ih hpiece hes
    refine ⟨fs, rfl, ?_⟩
    rwa [byteLength_cons, ← Nat.add_assoc]

/-- A token is kept as it is, behind blanks at most. -/
theorem exists_token {os : List Occurrence} (hos : TokensOf text os) {o : Occurrence} (ho : o ∈ os)
    {ds : List Char} (h : Widens text o.start (o.piece ++ o.after) ds) :
    ∃ bs es, ds = bs ++ (o.piece ++ es) ∧ (∀ b ∈ bs, isBlank b = true) ∧
      Widens text o.stop o.after es := by
  obtain ⟨c, piece, hpiece⟩ := List.exists_cons_of_ne_nil (hos.isSpelled o ho).ne_nil
  rw [hpiece, List.cons_append] at h
  obtain ⟨bs, es, rfl, hbs, -, hes⟩ := exists_keep h
  have hin : ∀ u v, piece = u ++ v → v ≠ [] →
      InsideToken text (o.start + c.utf8Size + byteLength u) := by
    rintro u v rfl hv
    have hc := c.utf8Size_pos
    have := byteLength_pos hv
    refine ⟨os, hos, o, ho, by omega, ?_⟩
    rw [o.stop_eq, hpiece, byteLength_cons, byteLength_append]
    omega
  obtain ⟨fs, rfl, hfs⟩ := exists_inside hin hes
  refine ⟨bs, fs, by rw [hpiece, List.cons_append], hbs, ?_⟩
  rwa [o.stop_eq, hpiece, byteLength_cons, ← Nat.add_assoc]

/-- Where a word can end, it can end before a blank as well. -/
theorem stopsWord {cs ds : List Char} (h : Widens text pos cs ds) (hcs : StopsWord cs) :
    StopsWord ds := by
  cases h with
  | done => exact hcs
  | keep => exact stopsWord_cons.2 (stopsWord_cons.1 hcs)
  | blank hb => exact stopsWord_cons.2 (by simp [isDelimiter, hb])

end Widens

/-! ## The same symbols -/

/-- Blanks in front of a text add no token. -/
theorem lexes_blanks {bs cs : List Char} {ts : List Token} (hbs : ∀ b ∈ bs, isBlank b = true)
    {pos : Nat} (h : Lexes (pos + byteLength bs) cs ts) : Lexes pos (bs ++ cs) ts := by
  induction bs generalizing pos with
  | nil => exact h
  | cons b bs ih =>
    rw [List.forall_mem_cons] at hbs
    rw [byteLength_cons, ← Nat.add_assoc] at h
    exact .blank hbs.1 (ih hbs.2 h)

/-- What the lexer makes of a text from some offset on, and of a wider one at any offset. -/
theorem exists_lexes_of_widens {text : String} {os : List Occurrence} (hos : TokensOf text os)
    {pos : Nat} {cs : List Char} {ts : List Token} (h : Lexes pos cs ts) :
    ∀ before : List Char, before ++ cs = text.toList → byteLength before = pos →
      (∀ t ∈ ts, t ∈ os.map Occurrence.token) → ∀ {ds : List Char}, Widens text pos cs ds →
      ∀ pos', ∃ us, Lexes pos' ds us ∧ us.map Token.symbol = ts.map Token.symbol := by
  induction h using Lexes.inductionOn with
  | done pos =>
    intro before _ _ _ ds hds pos'
    have := lexes_blanks hds.isBlank_of_nil (.done (pos' + byteLength ds))
    rw [List.append_nil] at this
    exact ⟨[], this, rfl⟩
  | @blank pos c cs ts hc _ ih =>
    intro before htext hpos hts ds hds pos'
    obtain ⟨bs, es, rfl, hbs, -, hes⟩ := hds.exists_keep
    obtain ⟨us, hus, hsymbols⟩ := ih (before ++ [c]) (by simpa using htext)
      (by simp [hpos]) hts hes (pos' + byteLength bs + c.utf8Size)
    exact ⟨us, lexes_blanks hbs (.blank hc hus), hsymbols⟩
  | @lexeme pos piece s rest ts hpiece _ ih =>
    rintro before htext rfl hts ds hds pos'
    rw [List.forall_mem_cons] at hts
    -- the lexeme is one of the tokens of the whole text
    obtain ⟨o, ho, htoken⟩ := List.mem_map.1 hts.1
    have heq : o = ⟨before, piece, rest, s⟩ :=
      o.eq_of_token ((hos.text_eq o ho).trans (by simpa [Occurrence.text] using htext.symm))
        (hos.isSpelled o ho) (hpiece.isSpelled before) htoken
    subst heq
    obtain ⟨bs, es, rfl, hbs, hes⟩ := Widens.exists_token hos ho hds
    obtain ⟨us, hus, hsymbols⟩ := ih (before ++ piece) (by simpa using htext)
      (byteLength_append ..) hts.2 (Occurrence.stop_eq _ ▸ hes)
      (pos' + byteLength bs + byteLength piece)
    exact ⟨_, lexes_blanks hbs ((hpiece.of_stopsWord hes.stopsWord).lexes hus),
      congrArg (s :: ·) hsymbols⟩

/-! ## The same expression or the same fault -/

/-- Two lists of tokens with the same symbols have the same first symbol. -/
theorem exists_cons_of_map_symbol {us ts : List Token} {s : Symbol} {p : Nat}
    (h : us.map Token.symbol = (⟨s, p⟩ :: ts : List Token).map Token.symbol) :
    ∃ q vs, us = ⟨s, q⟩ :: vs ∧ vs.map Token.symbol = ts.map Token.symbol := by
  obtain ⟨⟨_, q⟩, vs, rfl, rfl, hvs⟩ := List.map_eq_cons_iff.1 h
  exact ⟨q, vs, rfl, hvs⟩

/-- What the parser finds and what it reports depends on the symbols, not on where they stand. -/
theorem run_congr {limit stop stop' : Nat} {st : State} {ts us : List Token}
    (h : us.map Token.symbol = ts.map Token.symbol) :
    (run limit stop' st us).mapError SyntaxError.fault =
      (run limit stop st ts).mapError SyntaxError.fault := by
  fun_induction run limit stop st ts generalizing us with
  | case1 | case13 =>
    obtain rfl := List.map_eq_nil_iff.1 h
    rw [run]
  | case2 | case16 =>
    obtain rfl := List.map_eq_nil_iff.1 h
    rw [run]
    rfl
  | case3 _ _ _ _ _ _ hid hlen ih =>
    obtain ⟨p, _, rfl, hu⟩ := exists_cons_of_map_symbol h
    obtain ⟨q, us, rfl, hus⟩ := exists_cons_of_map_symbol hu
    rw [run, if_pos hid, if_pos hlen]
    exact ih hus
  | case4 _ _ _ _ _ _ hid hlen =>
    obtain ⟨p, _, rfl, hu⟩ := exists_cons_of_map_symbol h
    obtain ⟨q, us, rfl, -⟩ := exists_cons_of_map_symbol hu
    rw [run, if_pos hid, if_neg hlen]
    rfl
  | case5 _ _ _ _ _ _ hid =>
    obtain ⟨p, _, rfl, hu⟩ := exists_cons_of_map_symbol h
    obtain ⟨q, us, rfl, -⟩ := exists_cons_of_map_symbol hu
    rw [run, if_neg hid]
    rfl
  | case6 _ _ _ _ ts hts ih =>
    obtain ⟨p, us, rfl, hus⟩ := exists_cons_of_map_symbol h
    have hend : EndsOperand us := by
      rintro ⟨_, q⟩ ht rfl
      obtain ⟨vs, rfl⟩ := List.head?_eq_some_iff.1 ht
      obtain ⟨r, ws, hws, -⟩ := exists_cons_of_map_symbol hus.symm
      exact hts _ _ hws
    rw [run_word hend]
    exact ih hus
  | case7 _ _ _ _ _ _ ih | case10 _ _ _ _ ih | case17 _ _ _ _ _ ih | case18 _ _ _ _ _ ih =>
    obtain ⟨p, us, rfl, hus⟩ := exists_cons_of_map_symbol h
    rw [run]
    exact ih hus
  | case8 | case9 | case11 | case12 | case14 =>
    obtain ⟨p, us, rfl, -⟩ := exists_cons_of_map_symbol h
    rw [run]
    rfl
  | case15 _ _ _ _ hs =>
    obtain ⟨p, us, rfl, -⟩ := exists_cons_of_map_symbol h
    rw [run]
    · rfl
    · exact hs
  | case19 _ _ _ _ _ _ hs hs' =>
    obtain ⟨p, us, rfl, -⟩ := exists_cons_of_map_symbol h
    rw [run]
    · rfl
    · exact hs
    · exact hs'

/-- The parser makes the same of wider symbols. -/
theorem parse_congr {text wide : String} {tokens wider : Tokens} (htext : lex text = .ok tokens)
    (hwide : lex wide = .ok wider)
    (hsymbols : wider.list.map Token.symbol = tokens.list.map Token.symbol) (limit : Nat) :
    (parse limit wide).mapError (·.error.fault) = (parse limit text).mapError (·.error.fault) := by
  have hparse : ∀ {target : String} {ts : Tokens}, lex target = .ok ts →
      (parse limit target).mapError (·.error.fault) =
        (ts.parse limit).mapError SyntaxError.fault := by
    intro target ts hlex
    rw [parse_of_lex hlex]
    cases ts.parse limit <;> rfl
  rw [hparse htext, hparse hwide]
  exact run_congr hsymbols

/-- Blanks between tokens mean nothing. If a text has tokens, then so has every text that has more
blanks before, behind and between them, with the same symbols. At every limit on the nesting the
parser reads the same expression from both, or finds the same fault in both. -/
theorem parse_of_widens {text wide : String} {tokens : Tokens} (h : lex text = .ok tokens)
    (hwide : Widens text 0 text.toList wide.toList) :
    (∃ wider, lex wide = .ok wider ∧
      wider.list.map Token.symbol = tokens.list.map Token.symbol) ∧
    ∀ limit, (∀ e, parse limit wide = .ok e ↔ parse limit text = .ok e) ∧
      ∀ e, parse limit text = .error e →
        ∃ p, parse limit wide = .error ⟨wide, ⟨p, e.error.fault⟩⟩ := by
  obtain ⟨os, hos⟩ := exists_tokensOf h
  obtain rfl := Except.ok.inj (hos.lex_eq.symm.trans h)
  obtain ⟨ts, hlex, hts⟩ := map_eq_ok_iff.1 h
  obtain rfl := congrArg Tokens.list hts
  obtain ⟨us, hus, hsymbols⟩ := exists_lexes_of_widens hos (lexFrom_eq_ok_iff.1 hlex)
    [] rfl rfl (fun _ ht => ht) hwide 0
  have hwider : lex wide = .ok ⟨us, byteLength wide.toList⟩ :=
    map_eq_ok_iff.2 ⟨us, lexFrom_eq_ok_iff.2 hus, rfl⟩
  refine ⟨⟨_, hwider, hsymbols⟩, fun limit => ?_⟩
  have hparse := mapError_eq_mapError_iff.1 (parse_congr h hwider hsymbols limit)
  refine ⟨fun e => ?_, fun e he => ?_⟩
  · rcases hparse with ⟨d, hw, ht⟩ | ⟨d, d', hw, ht, -⟩
    · rw [hw, ht]
    · rw [hw, ht]
      exact iff_of_false (fun h => by cases h) fun h => by cases h
  · rcases hparse with ⟨d, hw, ht⟩ | ⟨d, d', hw, ht, hfault⟩
    · cases ht.symm.trans he
    · obtain rfl := Except.error.inj (ht.symm.trans he)
      obtain ⟨⟨p, fault⟩, -, rfl⟩ := mapError_eq_error_iff.1 hw
      exact ⟨p, hw.trans (by rw [← hfault])⟩

theorem tokensOf_bracedCall : TokensOf "f({é,y},'b c')" [
    ⟨[], ['f'], "({é,y},'b c')".toList, .word "f"⟩,
    ⟨['f'], ['('], "{é,y},'b c')".toList, .openParen⟩,
    ⟨['f', '('], "{é,y}".toList, ",'b c')".toList, .word "{é,y}"⟩,
    ⟨"f({é,y}".toList, [','], "'b c')".toList, .comma⟩,
    ⟨"f({é,y},".toList, "'b c'".toList, [')'], .quoted "b c" '\''⟩,
    ⟨"f({é,y},'b c'".toList, [')'], [], .closeParen⟩] where
  lex_eq := by
    have hlex : (lexFrom 0 "f({é,y},'b c')".toList).toOption = some [⟨.word "f", 0⟩,
        ⟨.openParen, 1⟩, ⟨.word "{é,y}", 2⟩, ⟨.comma, 8⟩, ⟨.quoted "b c" '\'', 9⟩,
        ⟨.closeParen, 14⟩] := by
      decide +kernel
    exact map_eq_ok_iff.2 ⟨_, toOption_eq_some_iff.1 hlex, by decide⟩
  text_eq := by decide
  isSpelled := by
    have hquoted : Unescapes '\'' "b c".toList "b c".toList := unescapes_unescape (by decide)
    simp only [List.forall_mem_cons, List.not_mem_nil, false_imp_iff, implies_true, and_true]
    exact ⟨⟨rfl, isWordPiece_of_nests (by decide) (by decide) (by simp [isDelimiter])⟩, rfl,
      ⟨rfl, isWordPiece_of_nests (by decide) (by decide) (by simp [isDelimiter])⟩, rfl,
      ⟨rfl, _, rfl, hquoted⟩, rfl⟩

/-- Blanks of four kinds before a text, behind it, and between tokens that touch; the one in the
string is part of it. -/
theorem parse_of_widens_bracedCall :
    (∃ tokens, lex "f({é,y},'b c')" = .ok tokens) ∧
    Widens "f({é,y},'b c')" 0 "f({é,y},'b c')".toList "\tf ({é,y}\u2003,'b c')\n".toList ∧
    (∃ wider, lex "\tf ({é,y}\u2003,'b c')\n" = .ok wider ∧ wider.list.map Token.symbol =
      [.word "f", .openParen, .word "{é,y}", .comma, .quoted "b c" '\'', .closeParen]) ∧
    (∀ e, parse 1 "\tf ({é,y}\u2003,'b c')\n" = .ok e ↔ parse 1 "f({é,y},'b c')" = .ok e) ∧
    parse 0 "f({é,y},'b c')" = .error ⟨"f({é,y},'b c')", ⟨0, .tooDeep 0⟩⟩ ∧
    ∃ p, parse 0 "\tf ({é,y}\u2003,'b c')\n" =
      .error ⟨"\tf ({é,y}\u2003,'b c')\n", ⟨p, .tooDeep 0⟩⟩ := by
  have hout : ∀ n ∈ [0, 1, 8, 15], ¬InsideToken "f({é,y},'b c')" n := by
    intro n hn
    rw [insideToken_iff tokensOf_bracedCall]
    revert n
    decide
  have hwide :
      Widens "f({é,y},'b c')" 0 "f({é,y},'b c')".toList "\tf ({é,y}\u2003,'b c')\n".toList :=
    .blank rfl (hout 0 (by decide)) <| .keep <| .blank rfl (hout 1 (by decide)) <| .keep <| .keep <|
      .keep <| .keep <| .keep <| .keep <| .blank rfl (hout 8 (by decide)) <| .keep <| .keep <|
      .keep <| .keep <| .keep <| .keep <| .keep <| .blank rfl (hout 15 (by decide)) <| .done
  have hdeep : parse 0 "f({é,y},'b c')" = .error ⟨"f({é,y},'b c')", ⟨0, .tooDeep 0⟩⟩ := by
    rw [parse_of_lex tokensOf_bracedCall.lex_eq]
    rfl
  obtain ⟨⟨wider, hlex, hsymbols⟩, hparse⟩ := parse_of_widens tokensOf_bracedCall.lex_eq hwide
  exact ⟨⟨_, tokensOf_bracedCall.lex_eq⟩, hwide, ⟨wider, hlex, hsymbols⟩, (hparse 1).1, hdeep,
    (hparse 0).2 _ hdeep⟩

end SeriesRender.Target
