import SeriesRender.Text.Bytes

/-!
# Form-encoded parameters

Pairs of a name and a value are joined by `&`, the two parts of a pair by the first `=`. A plus
stands for a blank, and a percent sign with two hexadecimal digits for a byte; the bytes are
UTF-8. Empty pairs are skipped.
-/

namespace SeriesRender.Text

/-- Split bytes at every `sep`. -/
def splitBytes (sep : Nat) : List Nat → List (List Nat)
  | [] => [[]]
  | b :: bs =>
    if b = sep then [] :: splitBytes sep bs
    else
      match splitBytes sep bs with
      | [] => [[b]]
      | piece :: pieces => (b :: piece) :: pieces

/-- The byte between two pairs. -/
def ampersand : Nat := 0x26

/-- The byte between a name and its value. -/
def equalsSign : Nat := 0x3D

/-- The byte that stands for a blank. -/
def plusSign : Nat := 0x2B

/-- The byte in front of two digits that stand for a byte. -/
def percentSign : Nat := 0x25

/-- The byte of a blank. -/
def blankByte : Nat := 0x20

/-- The value of a hexadecimal digit. -/
def hexValue? (b : Nat) : Option Nat :=
  if 0x30 ≤ b ∧ b ≤ 0x39 then some (b - 0x30)
  else if 0x41 ≤ b ∧ b ≤ 0x46 then some (b - 0x41 + 10)
  else if 0x61 ≤ b ∧ b ≤ 0x66 then some (b - 0x61 + 10)
  else none

/-- Undo percent encoding; a percent sign without two digits stands for itself. -/
def percentDecode : List Nat → List Nat
  | b :: h :: l :: bs =>
    if b = percentSign then
      match hexValue? h, hexValue? l with
      | some high, some low => (16 * high + low) :: percentDecode bs
      | _, _ => b :: percentDecode (h :: l :: bs)
    else b :: percentDecode (h :: l :: bs)
  | bs => bs

/-- A name or a value : pluses first, then percent signs, then UTF-8. -/
def formDecode (bs : List Nat) : String :=
  String.ofList (decodeLossy (percentDecode (bs.map fun b => if b = plusSign then blankByte else b)))

/-- The name and the value of a pair; without `=` the value is empty. -/
def formPair (bs : List Nat) : String × String :=
  (formDecode (bs.takeWhile (· ≠ equalsSign)), formDecode (bs.dropWhile (· ≠ equalsSign)).tail)

/-- The pairs of form-encoded bytes. -/
def formPairs (bs : List Nat) : List (String × String) :=
  ((splitBytes ampersand bs).filter (!·.isEmpty)).map formPair

end SeriesRender.Text
