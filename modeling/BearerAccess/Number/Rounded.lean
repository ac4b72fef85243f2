import BearerAccess.Number.Shortest

/-!
# Rounded decimals

Numbers with a fixed count of decimal digits, and the texts that the database makes of them.
-/

namespace BearerAccess

/-- The decimal of `count` digits that is nearest to `m * 2 ^ e`, where `m` is positive; a half goes
up. -/
def roundedDecimal (count m : Nat) (e : Int) : Decimal :=
  let top := floorLog10 (m * pow2 e.toNat) (pow2 (-e).toNat)
  let scale := top + 1 - (count : Int)
  let num := m * pow2 e.toNat * pow10 (-scale).toNat
  let den := pow2 (-e).toNat * pow10 scale.toNat
  ⟨(2 * num + den) / (2 * den), scale⟩

/-- The style of numbers that the database makes texts of: positional below `10 ^ 15`, and with a
point also before an exponent. -/
def DecimalStyle.stored : DecimalStyle := ⟨15, true⟩

def storedDigits : Nat := 15

/-- The text that the database makes of a number, if it is one. Zero has no sign. -/
def Binary64.storedText? : Binary64 → Option String
  | .nan => none
  | .infinite s => some (if s then "-Inf" else "Inf")
  | .finite s m e =>
    if m = 0 then some "0.0"
    else
      let magnitude := (roundedDecimal storedDigits m e).stripZeros.text .stored
      some (String.ofList (if s then '-' :: magnitude else magnitude))

end BearerAccess
