/-!
# Byte lengths and bytes

Positions in a text count the bytes of its UTF-8 encoding (`byteLength`). `decodeLossy` reads
bytes back : what is not UTF-8 becomes the replacement character, one for each maximal
beginning of a well-formed sequence.
-/

namespace SeriesRender.Text

/-- The number of bytes of a text in UTF-8. -/
def byteLength : List Char → Nat
  | [] => 0
  | c :: cs => c.utf8Size + byteLength cs

@[simp] theorem byteLength_nil : byteLength [] = 0 := rfl

@[simp] theorem byteLength_cons (c : Char) (cs : List Char) :
    byteLength (c :: cs) = c.utf8Size + byteLength cs := rfl

@[simp] theorem byteLength_append (as bs : List Char) :
    byteLength (as ++ bs) = byteLength as + byteLength bs := by
  induction as with
  | nil => simp
  | cons a as ih => simp [ih, Nat.add_assoc]

/-- The character that stands for bytes which are not UTF-8. -/
def replacement : Char := '\uFFFD'

/-- What a first byte promises : the bits it contributes, the range of the second byte, and how
many bytes follow in all. -/
structure Lead where
  bits : Nat
  low : Nat
  high : Nat
  following : Nat

/-- The first bytes of the multi-byte sequences. The range of the second byte rules out
overlong forms, surrogates and numbers beyond the last code point. -/
def Lead.of? (b : Nat) : Option Lead :=
  if 0xC2 ≤ b ∧ b ≤ 0xDF then some ⟨b - 0xC0, 0x80, 0xBF, 1⟩
  else if b = 0xE0 then some ⟨0, 0xA0, 0xBF, 2⟩
  else if b = 0xED then some ⟨0xD, 0x80, 0x9F, 2⟩
  else if 0xE1 ≤ b ∧ b ≤ 0xEF then some ⟨b - 0xE0, 0x80, 0xBF, 2⟩
  else if b = 0xF0 then some ⟨0, 0x90, 0xBF, 3⟩
  else if 0xF1 ≤ b ∧ b ≤ 0xF3 then some ⟨b - 0xF0, 0x80, 0xBF, 3⟩
  else if b = 0xF4 then some ⟨4, 0x80, 0x8F, 3⟩
  else none

/-- A sequence under way : the bits so far, the range of the next byte, and how many bytes are
still owed. -/
structure Partial where
  bits : Nat
  low : Nat
  high : Nat
  owed : Nat

/-- Decode, `open?` being the sequence under way. A byte outside the range that the sequence
asks for ends it with a replacement and is read afresh. -/
def decodeFrom : Option Partial → List Nat → List Char
  | none, [] => []
  | some _, [] => [replacement]
  | none, b :: bs =>
    if b < 0x80 then Char.ofNat b :: decodeFrom none bs
    else
      match Lead.of? b with
      | some lead => decodeFrom (some ⟨lead.bits, lead.low, lead.high, lead.following⟩) bs
      | none => replacement :: decodeFrom none bs
  | some p, b :: bs =>
    if p.low ≤ b ∧ b ≤ p.high then
      let bits := p.bits * 64 + (b - 0x80)
      if p.owed ≤ 1 then Char.ofNat bits :: decodeFrom none bs
      else decodeFrom (some ⟨bits, 0x80, 0xBF, p.owed - 1⟩) bs
    else if b < 0x80 then replacement :: Char.ofNat b :: decodeFrom none bs
    else
      match Lead.of? b with
      | some lead =>
        replacement :: decodeFrom (some ⟨lead.bits, lead.low, lead.high, lead.following⟩) bs
      | none => replacement :: replacement :: decodeFrom none bs

/-- Read bytes as UTF-8. -/
def decodeLossy (bs : List Nat) : List Char :=
  decodeFrom none bs

/-- The bytes of a text in UTF-8. -/
def bytes (cs : List Char) : List Nat :=
  (String.ofList cs).toUTF8.data.toList.map UInt8.toNat

end SeriesRender.Text
