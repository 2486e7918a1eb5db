import SeriesRender.Regex.Parser

/-!
# Replacement

A template is text with references to groups : `$name` and `${name}`, a name of digits being a
number, and `$$` for a dollar. `Regex.replaceAll` puts the expanded template in place of every
match; after an empty match right behind another match it moves on by one character.

`backreferences` turns text that refers to groups by a backslash and a number into a template.
-/

namespace SeriesRender.Regex

/-- The texts of the groups of a match; an absent group has none. -/
structure Groups where
  byNumber : Nat → Option (List Char)
  byName : String → Option (List Char)

/-- The characters of a name without braces. -/
def isReferenceChar (c : Char) : Bool :=
  c.isAlphanum || c = '_'

/-- The greatest number of a group. -/
def groupLimit : Nat := 0xFFFFFFFFFFFFFFFF

/-- The number of a group : digits, with a plus sign or without. -/
def readNumber? (cs : List Char) : Option Nat :=
  let digits := match cs with
    | '+' :: cs => cs
    | cs => cs
  if digits.isEmpty || !digits.all Char.isDigit then none
  else (some (digits.foldl (fun n c => 10 * n + (c.toNat - '0'.toNat)) 0)).filter (· ≤ groupLimit)

/-- The text that a name refers to. -/
def Groups.get (groups : Groups) (name : List Char) : List Char :=
  match readNumber? name with
  | some n => (groups.byNumber n).getD []
  | none => (groups.byName (String.ofList name)).getD []

theorem length_drop_dropWhile_le (p : Char → Bool) (cs : List Char) :
    ((cs.dropWhile p).drop 1).length ≤ cs.length := by
  have := length_dropWhile_le p cs
  simp only [List.length_drop]
  omega

/-- Expand a template. A dollar that starts no reference stands for itself. -/
def expand (groups : Groups) : List Char → List Char
  | [] => []
  | '$' :: '$' :: cs => '$' :: expand groups cs
  | '$' :: '{' :: cs =>
    if '}' ∈ cs then
      groups.get (cs.takeWhile (· != '}')) ++ expand groups ((cs.dropWhile (· != '}')).drop 1)
    else '$' :: expand groups ('{' :: cs)
  | '$' :: cs =>
    let name := cs.takeWhile isReferenceChar
    if name.isEmpty then '$' :: expand groups cs
    else groups.get name ++ expand groups (cs.dropWhile isReferenceChar)
  | c :: cs => c :: expand groups cs
termination_by cs => cs.length
decreasing_by
  · exact Nat.lt_succ_of_le (Nat.le_succ _)
  · exact Nat.lt_succ_of_le (Nat.le_succ_of_le (length_drop_dropWhile_le _ cs))
  · exact Nat.lt_succ_self _
  · exact Nat.lt_succ_self _
  · exact Nat.lt_succ_of_le (length_dropWhile_le isReferenceChar cs)
  · exact Nat.lt_succ_self _

/-- A template for text in which a backslash and digits refer to a group, and all else stands for
itself. `digits` says that a reference is under way. -/
def backreferencesFrom (digits : Bool) : List Char → List Char
  | [] => if digits then ['}'] else []
  | c :: cs =>
    if digits && c.isDigit then c :: backreferencesFrom true cs
    else
      (if digits then ['}'] else []) ++
        if c = '\\' ∧ (cs.head?.any Char.isDigit) then '$' :: '{' :: backreferencesFrom true cs
        else if c = '$' then '$' :: '$' :: backreferencesFrom false cs
        else c :: backreferencesFrom false cs

/-- A template in which groups are numbered behind backslashes, in the form that `expand` takes. -/
def backreferences (cs : List Char) : List Char :=
  backreferencesFrom false cs

/-- The part of a text between two places, the text starting at place 0. -/
def between (text : List Char) (start stop : Nat) : List Char :=
  (text.drop start).take (stop - start)

/-- The groups of a match that starts at `start`. -/
def Found.groups (found : Found) (names : List (String × Nat)) (text : List Char) (start : Nat) :
    Groups where
  byNumber := number
  byName name := (names.lookup name).bind number
where
  number (n : Nat) : Option (List Char) :=
    if n = 0 then some (between text start found.stop)
    else
      match found.marks.get? (2 * n), found.marks.get? (2 * n + 1) with
      | some start, some stop => some (between text start stop)
      | _, _ => none

/-- Replace matches in the rest of `whole` from `place` on. `ended` says that a match has just
ended there. -/
def replaceFrom (r : Regex) (template whole : List Char) (ended : Bool) (before : Option Char)
    (place : Nat) (cs : List Char) : List Char :=
  match hfound : r.pattern.search before place cs with
  | none => cs
  | some (start, found) =>
    if _hempty : ended ∧ found.stop = place then
      match cs with
      | [] => []
      | c :: cs => c :: replaceFrom r template whole false (some c) (place + 1) cs
    else
      let skipped := cs.take (start - place)
      let taken := cs.take (found.stop - place)
      let rest := cs.drop (found.stop - place)
      let text := expand (found.groups r.names whole start) template
      skipped ++ text ++
        replaceFrom r template whole true (taken.getLast?.or before) found.stop rest
termination_by (cs.length, if ended then 0 else 1)
decreasing_by
  · simp [Prod.lex_def]
  · obtain ⟨h₁, h₂, h₃⟩ := Pattern.search_bounds r.pattern hfound
    simp only [Prod.lex_def, List.length_drop]
    cases ended with
    | false => simp; omega
    | true => simp at _hempty; omega

/-- The text with every match replaced by the expanded template. -/
def replaceAll (r : Regex) (template text : List Char) : List Char :=
  replaceFrom r template text false none 0 text

end SeriesRender.Regex
