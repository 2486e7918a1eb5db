import SeriesRender.Target.Token
import SeriesRender.Text.Blank
import SeriesRender.Text.Bytes

/-!
# From text to tokens

Blanks separate tokens and are dropped. A quoted string runs to its closing quote; a backslash
escapes the quote and itself and stands for itself before any other character (`unescape`). A
word runs to the next blank, parenthesis, comma or quote; inside `{..}` and `[..]`, which must be
nested properly, a comma belongs to it (`scanWord`).

`append_of_scanWord` and `append_of_splitQuoted` say that scanning loses nothing : what was
scanned and the rest make up the text.
-/

namespace SeriesRender.Target

open Text

/-- The two quotes, each of which closes what it has opened. -/
def isQuote (c : Char) : Bool :=
  c = '\'' || c = '"'

/-- The characters that end a word. -/
def isDelimiter (c : Char) : Bool :=
  isBlank c || c = '(' || c = ')' || c = ',' || isQuote c

/-! ## Quoted strings -/

/-- The text up to the first `quote` that no backslash escapes, and the text after it. -/
def splitQuoted (quote : Char) : List Char → Option (List Char × List Char)
  | [] => none
  | [c] => if c = quote then some ([], []) else none
  | c :: d :: cs =>
    if c = '\\' then (splitQuoted quote cs).map fun (body, rest) => (c :: d :: body, rest)
    else if c = quote then some ([], d :: cs)
    else (splitQuoted quote (d :: cs)).map fun (body, rest) => (c :: body, rest)

/-- The value of the text between two quotes. -/
def unescape (quote : Char) : List Char → List Char
  | [] => []
  | [c] => [c]
  | c :: d :: cs =>
    if c = '\\' then
      if d = quote ∨ d = '\\' then d :: unescape quote cs else c :: d :: unescape quote cs
    else c :: unescape quote (d :: cs)

/-- The body of a string, its closing quote and the rest are all of the text. -/
theorem append_of_splitQuoted {quote : Char} {cs body rest : List Char}
    (h : splitQuoted quote cs = some (body, rest)) : body ++ quote :: rest = cs := by
  fun_induction splitQuoted quote cs generalizing body rest with
  | case1 => simp at h
  | case2 => simp_all
  | case3 => simp at h
  | case4 d cs ih =>
    obtain ⟨⟨b, r⟩, hb, he⟩ := Option.map_eq_some_iff.1 h
    cases he
    simp [ih hb]
  | case5 => simp_all
  | case6 c d cs hc hq ih =>
    obtain ⟨⟨b, r⟩, hb, he⟩ := Option.map_eq_some_iff.1 h
    cases he
    simp [ih hb]

/-! ## Words -/

/-- The brackets that can be nested in a word. -/
def isOpenBracket (c : Char) : Bool :=
  c = '{' || c = '['

/-- The bracket that `c` closes. -/
def opener? (c : Char) : Option Char :=
  if c = '}' then some '{' else if c = ']' then some '[' else none

/-- Whether a word ends before `c`, with the brackets `open` not yet closed. -/
def endsWord (opened : List (Char × Nat)) (c : Char) : Bool :=
  isDelimiter c && (opened.isEmpty || c ≠ ',')

/-- The word at the start of a text, and the text after it. `opened` holds the brackets not yet
closed, innermost first, with their offsets, and `pos` is the offset of the text. -/
def scanWord (opened : List (Char × Nat)) (pos : Nat) :
    List Char → Except SyntaxError (List Char × List Char)
  | [] =>
    match opened with
    | [] => .ok ([], [])
    | (c, p) :: _ => .error ⟨p, .unbalanced c⟩
  | c :: cs =>
    if endsWord opened c then
      match opened with
      | [] => .ok ([], c :: cs)
      | (o, p) :: _ => .error ⟨p, .unbalanced o⟩
    else if isOpenBracket c then
      (scanWord ((c, pos) :: opened) (pos + c.utf8Size) cs).map fun (w, rest) => (c :: w, rest)
    else
      match opener? c with
      | none => (scanWord opened (pos + c.utf8Size) cs).map fun (w, rest) => (c :: w, rest)
      | some o =>
        match opened with
        | [] => .error ⟨pos, .unbalanced c⟩
        | (b, _) :: outer =>
          if b = o then
            (scanWord outer (pos + c.utf8Size) cs).map fun (w, rest) => (c :: w, rest)
          else .error ⟨pos, .unbalanced c⟩

/-- A word and the rest are all of the text. -/
theorem append_of_scanWord {opened : List (Char × Nat)} {pos : Nat} {cs w rest : List Char}
    (h : scanWord opened pos cs = .ok (w, rest)) : w ++ rest = cs := by
  have cons : ∀ {c : Char} {cs w rest : List Char}
      {r : Except SyntaxError (List Char × List Char)},
      (∀ {w rest}, r = .ok (w, rest) → w ++ rest = cs) →
      r.map (fun (w, rest) => (c :: w, rest)) = .ok (w, rest) → w ++ rest = c :: cs := by
    intro c cs w rest r ih h
    cases r with
    | error e => cases h
    | ok p =>
      obtain ⟨w', rest'⟩ := p
      cases h
      simp [ih rfl]
  fun_induction scanWord opened pos cs generalizing w rest with
  | case1 => cases h; rfl
  | case2 => cases h
  | case3 => cases h; rfl
  | case4 => cases h
  | case5 pos opened c cs _ _ ih => exact cons ih h
  | case6 pos opened c cs _ _ _ ih => exact cons ih h
  | case7 => cases h
  | case8 pos c cs _ _ o _ _ outer ih => exact cons ih h
  | case9 => cases h

/-- A word takes at least one character, unless a delimiter comes first. -/
theorem length_le_of_scanWord {pos : Nat} {c : Char} {cs w rest : List Char}
    (hc : isDelimiter c = false) (h : scanWord [] pos (c :: cs) = .ok (w, rest)) :
    rest.length ≤ cs.length := by
  have happ := append_of_scanWord h
  cases w with
  | nil =>
    exfalso
    rw [List.nil_append] at happ
    subst happ
    rw [scanWord] at h
    simp only [endsWord, hc, Bool.false_and, Bool.false_eq_true, if_false] at h
    split at h
    · cases hr : scanWord [(c, pos)] (pos + c.utf8Size) cs <;> rw [hr] at h <;> cases h
    · split at h
      · cases hr : scanWord [] (pos + c.utf8Size) cs <;> rw [hr] at h <;> cases h
      · cases h
  | cons d ds =>
    simp only [List.cons_append, List.cons.injEq] at happ
    rw [← happ.2, List.length_append]
    omega

/-! ## Tokens -/

/-- Put a token in front of the tokens that follow it. -/
def cons (symbol : Symbol) (pos : Nat) (rest : Except SyntaxError (List Token)) :
    Except SyntaxError (List Token) :=
  rest.map (⟨symbol, pos⟩ :: ·)

/-- The tokens of a text whose offset is `pos`. -/
def lexFrom (pos : Nat) : List Char → Except SyntaxError (List Token)
  | [] => .ok []
  | c :: cs =>
    if hb : isBlank c then lexFrom (pos + c.utf8Size) cs
    else if ho : c = '(' then cons .openParen pos (lexFrom (pos + 1) cs)
    else if hc : c = ')' then cons .closeParen pos (lexFrom (pos + 1) cs)
    else if hs : c = ',' then cons .comma pos (lexFrom (pos + 1) cs)
    else if hq : isQuote c then
      match hbody : splitQuoted c cs with
      | none => .error ⟨pos, .unterminatedString⟩
      | some (body, rest) =>
        have : rest.length < cs.length + 1 := by
          have := congrArg List.length (append_of_splitQuoted hbody)
          simp only [List.length_append, List.length_cons] at this
          omega
        cons (.quoted (String.ofList (unescape c body)) c) pos
          (lexFrom (pos + byteLength body + 2) rest)
    else
      match hw : scanWord [] pos (c :: cs) with
      | .error e => .error e
      | .ok (w, rest) =>
        have : rest.length < cs.length + 1 := by
          have := length_le_of_scanWord (by simp [isDelimiter, hb, ho, hc, hs, hq]) hw
          omega
        cons (.word (String.ofList w)) pos (lexFrom (pos + byteLength w) rest)
termination_by cs => cs.length

/-- The tokens of a text. -/
def lex (text : String) : Except SyntaxError Tokens :=
  (lexFrom 0 text.toList).map fun list => ⟨list, byteLength text.toList⟩

end SeriesRender.Target
