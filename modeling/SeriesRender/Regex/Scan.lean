import SeriesRender.Regex.Pattern
import SeriesRender.Text.HexDigit

/-!
# The small parts of a pattern's text

Escapes, bracketed classes, counts and group heads. Each scanner returns what it read together
with the rest of the text, which is shorter (`Scanned.shorter`), so that reading a whole pattern
ends.
-/

namespace SeriesRender.Regex

/-- The settings that `(?flags)` changes. -/
structure Flags where
  fold : Bool := false
  multiline : Bool := false
  dotAll : Bool := false
  swapGreed : Bool := false
  crlf : Bool := false
  verbose : Bool := false
  ascii : Bool := false

/-- Something read from a text, and the rest of the text, shorter than `bound`. -/
structure Scanned (α : Type) (bound : Nat) where
  value : α
  rest : List Char
  shorter : rest.length < bound

/-- The same reading of a text that is longer at its start. -/
def Scanned.widen {α : Type} {m n : Nat} (s : Scanned α m) (h : m ≤ n) : Scanned α n :=
  ⟨s.value, s.rest, Nat.lt_of_lt_of_le s.shorter h⟩

/-- The same reading, its value seen in another way. -/
def Scanned.map {α β : Type} {n : Nat} (f : α → β) (s : Scanned α n) : Scanned β n :=
  ⟨f s.value, s.rest, s.shorter⟩

/-- A reading that goes on where `first` ends, as a reading of the whole text. -/
def Scanned.after {α β : Type} {n : Nat} (first : Scanned α n) (s : Scanned β first.rest.length) :
    Scanned β n :=
  s.widen (Nat.le_of_lt first.shorter)

theorem length_lt_cons {α : Type} (x : α) (xs : List α) : xs.length < (x :: xs).length :=
  Nat.lt_succ_self _

theorem length_le_cons {α : Type} (x : α) (xs : List α) : xs.length ≤ (x :: xs).length :=
  Nat.le_succ _

theorem length_dropWhile_le {α : Type} (p : α → Bool) (l : List α) :
    (l.dropWhile p).length ≤ l.length :=
  (List.dropWhile_sublist p).length_le

/-- Drop blanks and comments, which run from `#` to the end of the line. -/
def dropVerbose (comment : Bool) : List Char → List Char
  | [] => []
  | c :: cs =>
    if comment then dropVerbose (c ≠ '\n') cs
    else if Text.isBlank c then dropVerbose false cs
    else if c = '#' then dropVerbose true cs
    else c :: cs

/-- Leaving out blanks and comments makes no text longer. -/
theorem length_dropVerbose_le (comment : Bool) (cs : List Char) :
    (dropVerbose comment cs).length ≤ cs.length := by
  fun_induction dropVerbose comment cs with
  | case1 => simp
  | case2 c cs ih => simp only [List.length_cons]; omega
  | case3 c cs _ _ ih => simp only [List.length_cons]; omega
  | case4 c cs _ _ ih => simp only [List.length_cons]; omega
  | case5 => simp

/-- What follows blanks and comments, if the pattern may have them. -/
def Flags.skip (flags : Flags) (cs : List Char) : List Char :=
  if flags.verbose then dropVerbose false cs else cs

/-- Whatever the flags leave out, no text gets longer. -/
theorem Flags.length_skip_le (flags : Flags) (cs : List Char) :
    (flags.skip cs).length ≤ cs.length := by
  unfold Flags.skip
  split
  · exact length_dropVerbose_le false cs
  · exact Nat.le_refl _

/-- A text is shorter by its first character at least, once this is read. -/
theorem Flags.length_skip_lt_cons (flags : Flags) (c : Char) (cs : List Char) :
    (flags.skip cs).length < (c :: cs).length :=
  Nat.lt_succ_of_le (flags.length_skip_le cs)

/-! ## Escapes -/

/-- What an escape stands for. -/
inductive Escape
  | literal (c : Char)
  | set (s : CharClass)
  | look (l : Look)

/-- The character whose number has exactly `n` hexadecimal digits, or any number of them in
braces. -/
def scanHex (n : Nat) (cs : List Char) : Option (Scanned Char (cs.length + 1)) :=
  match cs with
  | '{' :: cs =>
    let digits := cs.takeWhile Text.isHexDigit
    match h : cs.dropWhile Text.isHexDigit with
    | '}' :: rest =>
      if digits.isEmpty then none
      else (Text.charOfHex? digits).map fun c => ⟨c, rest, by
        have := length_dropWhile_le Text.isHexDigit cs
        simp only [h, List.length_cons] at this ⊢
        omega⟩
    | _ => none
  | cs =>
    let digits := cs.take n
    if digits.length = n ∧ digits.all Text.isHexDigit then
      (Text.charOfHex? digits).map fun c => ⟨c, cs.drop n, by
        simp only [List.length_drop]
        omega⟩
    else none

/-- The characters of the names of word boundaries in braces. -/
def isBoundaryNameChar (c : Char) : Bool :=
  c.isAlpha || c = '-'

/-- A word boundary, with an optional name in braces. Braces that do not start with a name
belong to a repetition. -/
def scanBoundary (ascii : Bool) (cs : List Char) : Option (Scanned Escape (cs.length + 1)) :=
  match cs with
  | '{' :: c :: cs =>
    if isBoundaryNameChar c then
      let name := String.ofList ((c :: cs).takeWhile isBoundaryNameChar)
      match h : (c :: cs).dropWhile isBoundaryNameChar with
      | '}' :: rest =>
        let look := match name with
          | "start" => some (Look.wordStart ascii)
          | "end" => some (Look.wordEnd ascii)
          | "start-half" => some (Look.wordStartHalf ascii)
          | "end-half" => some (Look.wordEndHalf ascii)
          | _ => none
        look.map fun l => ⟨.look l, rest, by
          have := length_dropWhile_le isBoundaryNameChar (c :: cs)
          simp only [h, List.length_cons] at this ⊢
          omega⟩
      | _ => none
    else some ⟨.look (.boundary ascii), '{' :: c :: cs, by simp⟩
  | ['{'] => none
  | cs => some ⟨.look (.boundary ascii), cs, by simp⟩

/-- A class written with one letter, in its upper case the complement. Classes that hold more
than ASCII need Unicode. -/
def letterClass? (ascii : Bool) (c : Char) : Option CharClass :=
  let class? (unicode : CharClass) (ranges : List (Char × Char)) : CharClass :=
    if ascii then .ofRanges false ranges else unicode
  let compl? (unicode : CharClass) : Option CharClass :=
    if ascii then none else some (.compl unicode)
  match c with
  | 'd' => some (class? .digit CharClass.asciiDigits)
  | 's' => some (class? .blank CharClass.asciiBlanks)
  | 'w' => some (class? .word CharClass.asciiWords)
  | 'D' => compl? .digit
  | 'S' => compl? .blank
  | 'W' => compl? .word
  | _ => none

/-- A property name without what does not distinguish names. -/
def propertyName (cs : List Char) : String :=
  String.ofList ((cs.filter fun c => !(Text.isBlank c || c = '_' || c = '-')).map Char.toLower)

/-- A Unicode property, one letter or a name in braces. -/
def scanProperty (negated : Bool) (cs : List Char) : Option (Scanned Escape cs.length) :=
  let escape (negated : Bool) (name : List Char) : Option Escape :=
    (CharClass.property? (propertyName name)).map fun s =>
      .set (if negated then .compl s else s)
  match cs with
  | '{' :: cs =>
    match h : cs.dropWhile (· ≠ '}') with
    | '}' :: rest =>
      let name := cs.takeWhile (· ≠ '}')
      let found := match name with
        | '^' :: name => escape (!negated) name
        | name => escape negated name
      found.map fun e => ⟨e, rest, by
        have := length_dropWhile_le (· ≠ '}') cs
        simp only [h, List.length_cons] at this ⊢
        omega⟩
    | _ => none
  | c :: cs => (escape negated [c]).map fun e => ⟨e, cs, by simp⟩
  | [] => none

/-- What may follow a backslash and stand for itself : ASCII punctuation and blanks, apart from
the two angle brackets. -/
def isEscapable (c : Char) : Bool :=
  c.toNat < 128 && !c.isAlphanum && c ≠ '<' && c ≠ '>'

/-- The escape after a backslash. -/
def scanEscape (flags : Flags) : (cs : List Char) → Option (Scanned Escape cs.length)
  | [] => none
  | c :: cs =>
    let literal (c : Char) : Option (Scanned Escape (c :: cs).length) :=
      some ⟨.literal c, cs, by simp⟩
    let look (l : Look) : Option (Scanned Escape (c :: cs).length) :=
      some ⟨.look l, cs, by simp⟩
    let hex (n : Nat) : Option (Scanned Escape (c :: cs).length) :=
      (scanHex n cs).map fun s => ⟨.literal s.value, s.rest, s.shorter⟩
    match letterClass? flags.ascii c with
    | some s => some ⟨.set s, cs, by simp⟩
    | none =>
      match c with
      | 'x' => hex 2
      | 'u' => hex 4
      | 'U' => hex 8
      | 'p' => (scanProperty false cs).map fun s => s.widen (by simp)
      | 'P' => (scanProperty true cs).map fun s => s.widen (by simp)
      | 'a' => literal '\x07'
      | 'f' => literal '\x0C'
      | 't' => literal '\t'
      | 'n' => literal '\n'
      | 'r' => literal '\r'
      | 'v' => literal '\x0B'
      | 'A' => look .textStart
      | 'z' => look .textEnd
      | 'b' => scanBoundary flags.ascii cs
      | 'B' => look (.noBoundary flags.ascii)
      | '<' => look (.wordStart flags.ascii)
      | '>' => look (.wordEnd flags.ascii)
      | c => if isEscapable c then literal c else none

/-! ## Classes in brackets -/

/-- An operation between the two halves of a class. -/
inductive ClassOp
  | inter
  | diff
  | symmDiff

/-- The set that an operator makes of two. -/
def ClassOp.apply : ClassOp → CharClass → CharClass → CharClass
  | .inter => .inter
  | .diff => .diff
  | .symmDiff => .symmDiff

/-- A class that is open : what surrounds it so far, and, after an operator, its left half. -/
structure OpenClass where
  negated : Bool
  outer : CharClass
  left : Option (ClassOp × CharClass)

/-- The class read so far, the pending operator applied. -/
def OpenClass.settle (o : OpenClass) (items : CharClass) : CharClass :=
  match o.left with
  | none => items
  | some (op, left) => op.apply left items

/-- The class once its closing bracket is read. -/
def OpenClass.close (o : OpenClass) (items : CharClass) : CharClass :=
  if o.negated then .compl (o.settle items) else o.settle items

/-- The items of a class so far with one more; no items are left out of the union. -/
def CharClass.add : CharClass → CharClass → CharClass
  | .nothing, s => s
  | items, s => .union items s

/-- A named class such as `[:alpha:]`, its opening bracket already read. -/
def scanNamed (flags : Flags) : (cs : List Char) → Option (Scanned CharClass cs.length)
  | ':' :: cs =>
    let negated := cs.head? = some '^'
    let name := if negated then cs.tail else cs
    match h : name.dropWhile (· ≠ ':') with
    | ':' :: ']' :: rest =>
      (CharClass.namedRanges? (String.ofList (name.takeWhile (· ≠ ':')))).bind fun ranges =>
        let s := CharClass.ofRanges flags.fold ranges
        if negated && flags.ascii then none
        else some ⟨if negated then .compl s else s, rest, by
          have h₁ := length_dropWhile_le (· ≠ ':') name
          have h₂ : name.length ≤ cs.length := by
            simp only [name]
            split <;> simp
          simp only [h, List.length_cons] at h₁ ⊢
          omega⟩
    | _ => none
  | _ => none

/-- One member of a class : an escape or a character that stands for itself. -/
def scanMember (flags : Flags) : (cs : List Char) → Option (Scanned Escape cs.length)
  | [] => none
  | '\\' :: cs => (scanEscape flags cs).map (·.widen (by simp))
  | c :: cs => some ⟨.literal c, cs, by simp⟩

/-- Whether a hyphen here joins the ends of a range : neither the end of the class nor another
hyphen follows it. -/
def joinsRange (flags : Flags) (cs : List Char) : Bool :=
  match flags.skip cs with
  | [] => true
  | c :: _ => c ≠ ']' && c ≠ '-'

/-- A member, or a range between two characters. -/
def scanRange (flags : Flags) (cs : List Char) : Option (Scanned CharClass cs.length) :=
  (scanMember flags cs).bind fun first =>
    let alone : Option (Scanned CharClass cs.length) :=
      match first.value with
      | .literal c => some ⟨.single flags.fold c, first.rest, first.shorter⟩
      | .set s => some ⟨s, first.rest, first.shorter⟩
      | .look _ => none
    match h : flags.skip first.rest with
    | [] => none
    | '-' :: cs' =>
      if joinsRange flags cs' then
        (scanMember flags (flags.skip cs')).bind fun second =>
          match first.value, second.value with
          | .literal low, .literal high =>
            if low ≤ high then
              some ⟨.range flags.fold low high, second.rest, by
                have h₁ := first.shorter
                have h₂ := flags.length_skip_le first.rest
                have h₃ := flags.length_skip_le cs'
                have h₄ := second.shorter
                simp only [h, List.length_cons] at h₂
                omega⟩
            else none
          | _, _ => none
      else alone
    | _ => alone

/-- The start of a class, its opening bracket already read : an optional `^`, hyphens, and a
closing bracket that stands for itself if nothing precedes it. -/
def scanClassStart (flags : Flags) (cs : List Char) :
    Bool × CharClass × { rest : List Char // rest.length ≤ cs.length } :=
  let start : Bool × { r : List Char // r.length ≤ cs.length } :=
    match h : flags.skip cs with
    | '^' :: r => (true, ⟨flags.skip r, by
        have h₁ := flags.length_skip_le cs
        have h₂ := flags.length_skip_le r
        simp only [h, List.length_cons] at h₁
        omega⟩)
    | r => (false, ⟨r, by rw [← h]; exact flags.length_skip_le cs⟩)
  let (negated, ⟨r, hr⟩) := start
  match r, hr with
  | ']' :: r, hr => (negated, .single flags.fold ']', ⟨r, by simp only [List.length_cons] at hr; omega⟩)
  | '-' :: r, hr =>
    (negated, .single flags.fold '-', ⟨r.dropWhile (· = '-'), by
      have := length_dropWhile_le (· = '-') r
      simp at hr
      omega⟩)
  | r, hr => (negated, .nothing, ⟨r, hr⟩)

/-- What a class is made of. -/
inductive ClassPiece
  | member (s : CharClass)
  | opening (negated : Bool) (start : CharClass)
  | closing
  | operator (op : ClassOp)

/-- The piece that starts a text. -/
def scanClassPiece (flags : Flags) (cs : List Char) : Option (Scanned ClassPiece cs.length) :=
  match cs with
  | [] => none
  | '[' :: cs =>
    match scanNamed flags cs with
    | some s => some ((s.map .member).widen (Nat.le_succ _))
    | none =>
      let (negated, start, ⟨rest, h⟩) := scanClassStart flags cs
      some ⟨.opening negated start, rest, Nat.lt_succ_of_le h⟩
  | ']' :: cs => some ⟨.closing, cs, by simp⟩
  | '&' :: '&' :: cs => some ⟨.operator .inter, cs, Nat.lt_succ_of_le (Nat.le_succ _)⟩
  | '-' :: '-' :: cs => some ⟨.operator .diff, cs, Nat.lt_succ_of_le (Nat.le_succ _)⟩
  | '~' :: '~' :: cs => some ⟨.operator .symmDiff, cs, Nat.lt_succ_of_le (Nat.le_succ _)⟩
  | cs => (scanRange flags cs).map (·.map .member)

/-- The next piece of a class, behind what verbose patterns leave out. -/
def nextClassPiece (flags : Flags) (cs : List Char) : Option (Scanned ClassPiece cs.length) :=
  (scanClassPiece flags (flags.skip cs)).map (·.widen (flags.length_skip_le cs))

/-- The rest of the class `o`, the classes around it being `around`, innermost first. `items` is
what `o` holds since its last operator. -/
def scanItems (flags : Flags) (o : OpenClass) (around : List OpenClass) (items : CharClass)
    (cs : List Char) : Option (Scanned CharClass cs.length) :=
  (nextClassPiece flags cs).bind fun piece =>
    let next (o : OpenClass) (around : List OpenClass) (items : CharClass) :
        Option (Scanned CharClass cs.length) :=
      (scanItems flags o around items piece.rest).map (Scanned.after piece)
    match piece.value with
    | .member s => next o around (items.add s)
    | .opening negated start => next ⟨negated, items, none⟩ (o :: around) start
    | .operator op => next { o with left := some (op, o.settle items) } around .nothing
    | .closing =>
      if o.negated && flags.ascii then none
      else
        let s := o.close items
        match around with
        | [] => some (piece.map fun _ => s)
        | outer :: around => next outer around (o.outer.add s)
termination_by cs.length
decreasing_by exact piece.shorter

/-- A class in brackets, its opening bracket already read. -/
def scanClass (flags : Flags) (cs : List Char) : Option (Scanned CharClass (cs.length + 1)) :=
  let (negated, start, ⟨rest, h⟩) := scanClassStart flags cs
  (scanItems flags ⟨negated, .nothing, none⟩ [] start rest).map (·.widen (by omega))

/-! ## Counts and group heads -/

/-- The greatest count of a repetition. -/
def countLimit : Nat := 0xFFFFFFFF

/-- A count, with blanks around it. -/
def scanCount (cs : List Char) : Option (Nat × { rest : List Char // rest.length ≤ cs.length }) :=
  let cs' := cs.dropWhile Text.isBlank
  let digits := cs'.takeWhile Char.isDigit
  let n := digits.foldl (fun n c => 10 * n + (c.toNat - '0'.toNat)) 0
  if digits.isEmpty || countLimit < n then none
  else some (n, ⟨(cs'.dropWhile Char.isDigit).dropWhile Text.isBlank, by
    have h₁ := length_dropWhile_le Text.isBlank cs
    have h₂ : (cs'.dropWhile Char.isDigit).length ≤ (cs.dropWhile Text.isBlank).length :=
      length_dropWhile_le Char.isDigit cs'
    have h₃ := length_dropWhile_le Text.isBlank (cs'.dropWhile Char.isDigit)
    omega⟩)

/-- The counts of a repetition in braces, the opening brace already read : exactly so many, at
least so many, or between two numbers. -/
def scanCounts (cs : List Char) : Option (Scanned (Nat × Option Nat) cs.length) :=
  (scanCount cs).bind fun (least, ⟨r, hr⟩) =>
    match r, hr with
    | '}' :: r, hr => some ⟨(least, some least), r, by simp only [List.length_cons] at hr; omega⟩
    | ',' :: '}' :: r, hr => some ⟨(least, none), r, by simp only [List.length_cons] at hr; omega⟩
    | ',' :: r, hr =>
      (scanCount r).bind fun (most, ⟨r', hr'⟩) =>
        match r', hr' with
        | '}' :: r', hr' =>
          if least ≤ most then some ⟨(least, some most), r', by
            simp only [List.length_cons] at hr hr'
            omega⟩ else none
        | _, _ => none
    | _, _ => none

/-- Set or clear one flag. -/
def Flags.set? (flags : Flags) (on : Bool) : Char → Option Flags
  | 'i' => some { flags with fold := on }
  | 'm' => some { flags with multiline := on }
  | 's' => some { flags with dotAll := on }
  | 'U' => some { flags with swapGreed := on }
  | 'R' => some { flags with crlf := on }
  | 'x' => some { flags with verbose := on }
  | 'u' => some { flags with ascii := !on }
  | _ => none

/-- Whether flags belong to a group that they open, or change the rest of the group around
them. -/
inductive FlagsEnd
  | group
  | directive
  deriving DecidableEq

/-- Letters for flags up to `:` or `)`; those after a hyphen are cleared. A letter may not come
twice, and at least one must follow a hyphen. -/
def scanFlags (flags : Flags) (on : Bool) (seen : List Char) :
    (cs : List Char) → Option (Scanned (Flags × FlagsEnd) cs.length)
  | [] => none
  | c :: cs =>
    if c = ':' ∨ c = ')' then
      if seen.head? = some '-' then none
      else some ⟨(flags, if c = ':' then .group else .directive), cs, by simp⟩
    else if c ∈ seen then none
    else if c = '-' then (scanFlags flags false ('-' :: seen) cs).map (·.widen (by simp))
    else
      (flags.set? on c).bind fun flags =>
        (scanFlags flags on (c :: seen) cs).map (·.widen (by simp))

/-- Characters that the name of a group can start with. -/
def isNameStart (c : Char) : Bool :=
  c = '_' || isLetter c

/-- Characters that it can go on with. -/
def isNameChar (c : Char) : Bool :=
  c = '_' || c = '.' || c = '[' || c = ']' || isLetter c || isNumber c

/-- The name of a group up to `>`. -/
def scanName (cs : List Char) : Option (Scanned String cs.length) :=
  let name := cs.takeWhile (· ≠ '>')
  match h : cs.dropWhile (· ≠ '>'), name with
  | '>' :: rest, c :: name =>
    if isNameStart c && name.all isNameChar then
      some ⟨String.ofList (c :: name), rest, by
        have := length_dropWhile_le (· ≠ '>') cs
        simp only [h, List.length_cons] at this
        omega⟩
    else none
  | _, _ => none

/-- What stands after an opening parenthesis. -/
inductive Head
  | capture
  | named (name : String)
  | plain (flags : Flags)
  | directive (flags : Flags)

/-- The head of a group, its parenthesis already read. Looking around is not supported, and flags
that change nothing need a group. -/
def scanHead (flags : Flags) (cs : List Char) : Option (Scanned Head (cs.length + 1)) :=
  match cs with
  | '?' :: 'P' :: '<' :: cs =>
    (scanName cs).map fun s => ⟨.named s.value, s.rest, by have := s.shorter; simp; omega⟩
  | '?' :: '<' :: '=' :: _ => none
  | '?' :: '<' :: '!' :: _ => none
  | '?' :: '<' :: cs =>
    (scanName cs).map fun s => ⟨.named s.value, s.rest, by have := s.shorter; simp; omega⟩
  | '?' :: ')' :: _ => none
  | '?' :: cs =>
    (scanFlags flags true [] cs).map fun s =>
      ⟨if s.value.2 = .group then .plain s.value.1 else .directive s.value.1, s.rest, by
        have := s.shorter
        simp
        omega⟩
  | cs => some ⟨.capture, cs, by simp⟩

end SeriesRender.Regex
