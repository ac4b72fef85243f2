/-!
# Binary64 numbers

Numbers with 53 significant bits and a bounded binary exponent, held exactly: rounding of quotients
to the nearest number with ties to even, products, and integral parts.
-/

namespace BearerAccess

def pow2 (k : Nat) : Nat := Nat.pow 2 k

def pow10 (k : Nat) : Nat := Nat.pow 10 k

/-- A binary64 number: a sign with `mantissa * 2 ^ exponent`, an infinity, or no number. -/
inductive Binary64 where
  | finite (negative : Bool) (mantissa : Nat) (exponent : Int)
  | infinite (negative : Bool)
  | nan
  deriving DecidableEq, Repr, Inhabited

namespace Binary64

def minExponent : Int := -1074

def maxExponent : Int := 971

def floorLog2 (num den : Nat) : Int :=
  let k : Int := (num.log2 : Int) - (den.log2 : Int)
  if den * pow2 k.toNat ≤ num * pow2 (-k).toNat then k else k - 1

/-- The quotient of two numbers, rounded to the nearest integer, a half to the even one. -/
def roundQuotient (num den : Nat) : Nat :=
  let q := num / den
  let r := num % den
  if 2 * r < den then q else if den < 2 * r then q + 1 else q + q % 2

/-- The number nearest to a quotient, of two the one with the even mantissa. -/
def ofQuotient (negative : Bool) (num den : Nat) : Binary64 :=
  if num = 0 then .finite negative 0 minExponent
  else
    let e := max minExponent (floorLog2 num den - 52)
    let m := roundQuotient (num * pow2 (-e).toNat) (den * pow2 e.toNat)
    let carried := if m = pow2 53 then (pow2 52, e + 1) else (m, e)
    if maxExponent < carried.2 then .infinite negative
    else .finite negative carried.1 carried.2

def ofInt (n : Int) : Binary64 := ofQuotient (n < 0) n.natAbs 1

/-- The number nearest to a decimal `digits * 10 ^ scale`. Decimals far outside the range are told
by their number of digits alone. -/
def ofDecimal (negative : Bool) (digits : Nat) (scale : Int) : Binary64 :=
  if digits = 0 then .finite negative 0 minExponent
  else
    let size : Int := (Nat.toDigits 10 digits).length + scale
    if 310 < size then .infinite negative
    else if size < -330 then .finite negative 0 minExponent
    else ofQuotient negative (digits * pow10 scale.toNat) (pow10 (-scale).toNat)

def isZero : Binary64 → Bool
  | .finite _ m _ => m == 0
  | _ => false

def isNegative : Binary64 → Bool
  | .finite s _ _ => s
  | .infinite s => s
  | .nan => false

def mul : Binary64 → Binary64 → Binary64
  | .finite s m e, .finite t n f =>
    ofQuotient (s != t) (m * n * pow2 (e + f).toNat) (pow2 (-(e + f)).toNat)
  | .nan, _ => .nan
  | _, .nan => .nan
  | x, y => if x.isZero || y.isZero then .nan else .infinite (x.isNegative != y.isNegative)

instance : Mul Binary64 := ⟨mul⟩

def truncate? : Binary64 → Option Int
  | .finite s m e =>
    let whole : Int := (m * pow2 e.toNat / pow2 (-e).toNat : Nat)
    some (if s then -whole else whole)
  | _ => none

end Binary64

end BearerAccess
