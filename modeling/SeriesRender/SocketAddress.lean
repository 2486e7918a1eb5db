import SeriesRender.Decimal.Reading
import SeriesRender.Text.HexDigit

/-!
# Socket addresses

The text of an address to listen on : an IPv4 address, or an IPv6 address in brackets with an
optional scope, then a colon and a port. `isSocketAddress` says whether a text is one. The readers
answer with the rest of the text, or with none if it does not begin with what they read.
-/

namespace SeriesRender

namespace SocketAddress

/-- The rest after a character. -/
def char? (c : Char) : List Char → Option (List Char)
  | [] => none
  | d :: cs => if d = c then some cs else none

/-- The rest after a decimal number below a bound, with zeros in front or not. -/
def number? (bound : Nat) (cs : List Char) : Option (List Char) := do
  let n ← Decimal.readNat? (cs.takeWhile Char.isDigit)
  if n < bound then some (cs.dropWhile Char.isDigit) else none

/-- The rest after a number of an IPv4 address, which has no zeros in front. -/
def octet? (cs : List Char) : Option (List Char) :=
  match cs.takeWhile Char.isDigit with
  | '0' :: _ :: _ => none
  | _ => number? 256 cs

/-- The rest after an IPv4 address. -/
def ipv4? (cs : List Char) : Option (List Char) := do
  let cs ← char? '.' (← octet? cs)
  let cs ← char? '.' (← octet? cs)
  let cs ← char? '.' (← octet? cs)
  octet? cs

/-- The rest after a group of an IPv6 address, one to four hexadecimal digits. -/
def group? (cs : List Char) : Option (List Char) :=
  let length := (cs.takeWhile Text.isHexDigit).length
  if 1 ≤ length ∧ length ≤ 4 then some (cs.drop length) else none

/-- The rest after what follows another group, or at the `first` position what stands alone. -/
def separated? (first : Bool) (read? : List Char → Option (List Char)) (cs : List Char) :
    Option (List Char) :=
  if first then read? cs else (char? ':' cs).bind read?

/-- Groups joined by colons, at most `limit` of them, as many as there are : how many, whether the
last two are written as an IPv4 address, and the rest. -/
def groups (first : Bool) (limit : Nat) (cs : List Char) : Nat × Bool × List Char :=
  match limit with
  | 0 => (0, false, cs)
  | left + 1 =>
    match (if 0 < left then separated? first ipv4? cs else none) with
    | some rest => (2, true, rest)
    | none =>
      match separated? first group? cs with
      | none => (0, false, cs)
      | some rest =>
        match groups false left rest with
        | (n, ipv4, rest) => (n + 1, ipv4, rest)

/-- The rest after an IPv6 address : eight groups, or fewer around a double colon. -/
def ipv6? (cs : List Char) : Option (List Char) :=
  match groups true 8 cs with
  | (8, _, rest) => some rest
  | (n, false, rest) => do
    let rest ← char? ':' (← char? ':' rest)
    return (groups true (7 - n) rest).2.2
  | _ => none

/-- A port behind a colon; the answer is what follows it. -/
def port? (cs : List Char) : Option (List Char) :=
  (char? ':' cs).bind (number? 65536)

/-- The rest after a scope, which may be missing. -/
def scope? (cs : List Char) : Option (List Char) :=
  match cs with
  | '%' :: cs => number? 0x100000000 cs
  | cs => some cs

/-- An address of four bytes with a port. -/
def socketV4? (cs : List Char) : Option (List Char) :=
  (ipv4? cs).bind port?

/-- An address of eight groups between brackets, with a port. -/
def socketV6? (cs : List Char) : Option (List Char) := do
  let cs ← ipv6? (← char? '[' cs)
  let cs ← char? ']' (← scope? cs)
  port? cs

end SocketAddress

/-- Whether a text is the address of a socket. -/
def isSocketAddress (s : String) : Bool :=
  SocketAddress.socketV4? s.toList = some [] || SocketAddress.socketV6? s.toList = some []

end SeriesRender
