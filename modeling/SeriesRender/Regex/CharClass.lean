import SeriesRender.Regex.LetterCase
import SeriesRender.Regex.Property
import SeriesRender.Text.Blank

/-!
# Classes of characters

A class is built from ranges and Unicode properties by union, intersection, differences and
complement. A folded range also holds the characters that differ from one of its own in case
only, so folding is settled at the leaves and the operations need not know of it.
-/

namespace SeriesRender.Regex

/-- Sets of characters, as a class of a pattern puts them together. -/
inductive CharClass
  | nothing
  | range (folded : Bool) (low high : Char)
  | digit
  | blank
  | word
  | letter
  | number
  | union (a b : CharClass)
  | inter (a b : CharClass)
  | diff (a b : CharClass)
  | symmDiff (a b : CharClass)
  | compl (a : CharClass)
  deriving DecidableEq, Repr

namespace CharClass

/-- Whether a character lies between two others, which count. -/
def inRange (low high c : Char) : Bool :=
  low ≤ c && c ≤ high

/-- Whether a character is in the set. -/
def contains : CharClass → Char → Bool
  | nothing, _ => false
  | range folded low high, c =>
    inRange low high c || folded && (variants c).any (inRange low high)
  | digit, c => isDigit c
  | blank, c => Text.isBlank c
  | word, c => isWord c
  | letter, c => isLetter c
  | number, c => isNumber c
  | union a b, c => a.contains c || b.contains c
  | inter a b, c => a.contains c && b.contains c
  | diff a b, c => a.contains c && !b.contains c
  | symmDiff a b, c => a.contains c != b.contains c
  | compl a, c => !a.contains c

/-- The class of one character. -/
def single (folded : Bool) (c : Char) : CharClass :=
  range folded c c

/-- Every character. -/
def any : CharClass :=
  compl nothing

/-- The union of some ranges. -/
def ofRanges (folded : Bool) : List (Char × Char) → CharClass
  | [] => nothing
  | [(low, high)] => range folded low high
  | (low, high) :: rest => union (range folded low high) (ofRanges folded rest)

/-- The decimal digits, blanks and word characters of ASCII. -/
def asciiDigits : List (Char × Char) := [('0', '9')]

/-- The blanks of ASCII. -/
def asciiBlanks : List (Char × Char) := [('\t', '\r'), (' ', ' ')]

/-- The word characters of ASCII. -/
def asciiWords : List (Char × Char) := [('0', '9'), ('A', 'Z'), ('_', '_'), ('a', 'z')]

/-- The named ASCII classes of `[:name:]`. -/
def namedRanges? (name : String) : Option (List (Char × Char)) :=
  match name with
  | "alnum" => some [('0', '9'), ('A', 'Z'), ('a', 'z')]
  | "alpha" => some [('A', 'Z'), ('a', 'z')]
  | "ascii" => some [('\x00', '\x7F')]
  | "blank" => some [('\t', '\t'), (' ', ' ')]
  | "cntrl" => some [('\x00', '\x1F'), ('\x7F', '\x7F')]
  | "digit" => some asciiDigits
  | "graph" => some [('!', '~')]
  | "lower" => some [('a', 'z')]
  | "print" => some [(' ', '~')]
  | "punct" => some [('!', '/'), (':', '@'), ('[', '\x60'), ('\x7B', '~')]
  | "space" => some asciiBlanks
  | "upper" => some [('A', 'Z')]
  | "word" => some asciiWords
  | "xdigit" => some [('0', '9'), ('A', 'F'), ('a', 'f')]
  | _ => none

/-- The Unicode properties of `\p`, by their names without case, blanks and underscores. -/
def property? (name : String) : Option CharClass :=
  match name with
  | "alphabetic" | "alpha" => some letter
  | "n" | "number" => some number
  | "nd" | "decimalnumber" | "digit" => some digit
  | "whitespace" | "wspace" | "space" => some blank
  | "any" => some any
  | "ascii" => some (range false '\x00' '\x7F')
  | _ => none

end CharClass

end SeriesRender.Regex
