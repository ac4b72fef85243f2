/-!
# Texts as sequences of code points

A text that arrives from outside may hold surrogates that pair with nothing. It is a list of code
points; the texts that have a UTF-8 form are exactly those without surrogates, and they are the
strings of the rest of the library.
-/

namespace BearerAccess

abbrev CodePoint := Fin 0x110000

/-- A text as it arrives: code points, of which some may be surrogates. -/
abbrev Text := List CodePoint

abbrev CodeRanges := List (Nat × Nat)

def CodeRanges.holds (ranges : CodeRanges) (n : Nat) : Bool :=
  ranges.any fun r => r.1 ≤ n && n ≤ r.2

namespace CodePoint

def ofChar (c : Char) : CodePoint :=
  ⟨c.toNat, by
    have h : c.toNat < 0xD800 ∨ (0xDFFF < c.toNat ∧ c.toNat < 0x110000) := c.valid
    omega⟩

def isSurrogate (p : CodePoint) : Bool := 0xD800 ≤ p.val && p.val < 0xE000

def is (p : CodePoint) (c : Char) : Bool := p.val == c.toNat

def isAscii (p : CodePoint) : Bool := p.val < 0x80

def toChar? (p : CodePoint) : Option Char :=
  if p.isSurrogate then none else some (Char.ofNat p.val)

end CodePoint

namespace Text

def ofString (s : String) : Text := s.toList.map CodePoint.ofChar

instance : Coe String Text := ⟨ofString⟩

def toString? (t : Text) : Option String := (t.mapM CodePoint.toChar?).map String.ofList

def legible (t : Text) : List Char := t.map fun p => p.toChar?.getD '\uFFFD'

/-- The first run of surrogates in a text: where it starts, and its members. -/
def firstSurrogates (t : Text) : Nat × List CodePoint :=
  let clean := t.takeWhile (!·.isSurrogate)
  (clean.length, (t.drop clean.length).takeWhile (·.isSurrogate))

end Text

end BearerAccess
