import BearerAccess.Number.Binary64

/-!
# Shortest decimals

The decimal with the fewest digits among those that round to a given binary64 number, of several
the one nearest to it, and the text of a number that is made of it.
-/

namespace BearerAccess

/-- A decimal `digits * 10 ^ scale`. -/
structure Decimal where
  digits : Nat
  scale : Int
  deriving DecidableEq, Repr

def digitCount (n : Nat) : Nat := if n = 0 then 0 else (Nat.toDigits 10 n).length

def floorLog10 (num den : Nat) : Int :=
  if den ≤ num then (digitCount (num / den) : Int) - 1
  else -(digitCount ((den - 1) / num) : Int)

/-- The multiple of `10 ^ scale` that rounds to `m * 2 ^ e`, if there is one; the nearest if there
are two. The numbers that round to `m * 2 ^ e` lie between the middles toward its two neighbours,
and a middle itself belongs to the even mantissa. -/
def onGrid? (m : Nat) (e scale : Int) : Option Nat :=
  let unit := pow10 scale.toNat * pow2 (2 - e).toNat
  let quarter := pow2 (e - 2).toNat * pow10 (-scale).toNat
  let below := if m = pow2 52 ∧ Binary64.minExponent < e then 1 else 2
  let low := (4 * m - below) * quarter
  let high := (4 * m + 2) * quarter
  let inside (c : Nat) : Bool :=
    if m % 2 = 0 then low ≤ c * unit && c * unit ≤ high else low < c * unit && c * unit < high
  let value := 4 * m * quarter
  let c := value / unit
  match inside c, inside (c + 1) with
  | false, false => none
  | true, false => some c
  | false, true => some (c + 1)
  | true, true =>
    if 2 * value < (2 * c + 1) * unit then some c
    else if (2 * c + 1) * unit < 2 * value then some (c + 1)
    else some (c + c % 2)

/-- The shortest decimal that rounds to `m * 2 ^ e`; seventeen digits always suffice. -/
def shortestDecimal (m : Nat) (e : Int) : Decimal :=
  let top := floorLog10 (m * pow2 e.toNat) (pow2 (-e).toNat)
  let attempt (count : Nat) : Option Decimal :=
    let scale := top - (count : Int)
    (onGrid? m e scale).map (⟨·, scale⟩)
  ((List.range 18).findSome? attempt).getD ⟨0, 0⟩

def Decimal.stripZeros (d : Decimal) : Decimal :=
  let zeros := ((Nat.toDigits 10 d.digits).reverse.takeWhile (· == '0')).length
  if d.digits = 0 then d else ⟨d.digits / pow10 zeros, d.scale + (zeros : Int)⟩

/-- The exponent of a number's text: a sign and at least two digits. -/
def exponentText (x : Int) : List Char :=
  let digits := Nat.toDigits 10 x.natAbs
  'e' :: (if x < 0 then '-' else '+') :: (if digits.length < 2 then '0' :: digits else digits)

/-- How decimals are written: the least exponent that is not written positionally, and whether a
single digit before an exponent is followed by a point and a zero. -/
structure DecimalStyle where
  limit : Int
  pointed : Bool
  deriving DecidableEq, Repr

/-- A positive decimal as text: positional from `10 ^ -4` to below the limit, always with a point,
and else with an exponent. -/
def Decimal.text (style : DecimalStyle) (d : Decimal) : List Char :=
  let ds := Nat.toDigits 10 d.digits
  let point : Int := ds.length + d.scale
  let x := point - 1
  if -4 ≤ x ∧ x < style.limit then
    if 0 ≤ d.scale then ds ++ List.replicate d.scale.toNat '0' ++ ['.', '0']
    else if 0 < point then ds.take point.toNat ++ '.' :: ds.drop point.toNat
    else '0' :: '.' :: (List.replicate (-point).toNat '0' ++ ds)
  else match ds with
    | [d] => d :: (if style.pointed then ['.', '0'] else []) ++ exponentText x
    | d :: more => d :: '.' :: more ++ exponentText x
    | [] => exponentText x

/-- The style of numbers in texts: positional below `10 ^ 16`. -/
def DecimalStyle.plain : DecimalStyle := ⟨16, false⟩

/-- The text of a number: its shortest decimal. -/
def Binary64.text : Binary64 → String
  | .nan => "nan"
  | .infinite s => if s then "-inf" else "inf"
  | .finite s m e =>
    let magnitude :=
      if m = 0 then ['0', '.', '0'] else (shortestDecimal m e).stripZeros.text .plain
    String.ofList (if s then '-' :: magnitude else magnitude)

end BearerAccess
