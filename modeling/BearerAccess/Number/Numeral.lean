import BearerAccess.Number.Binary64
import BearerAccess.Text.Blank
import BearerAccess.Text.DecimalDigit

/-!
# Numerals

Texts of numbers, as they stand in settings: white space at the ends, a sign, decimal digits of any
script with single underscores between them; for numbers that need not be whole also a fraction, an
exponent, and words for infinity and for no number.
-/

namespace BearerAccess

/-- Why a text is no integer. -/
inductive NumeralProblem where
  | malformed
  | tooManyDigits (count : Nat)
  deriving DecidableEq, Repr

def maxIntegerDigits : Nat := 4300

def isAsciiSpace (c : Char) : Bool := c = ' ' || (0x9 ≤ c.toNat && c.toNat ≤ 0xD)

/-- The ASCII character that stands for a character inside a numeral: beyond ASCII all white space
counts as a space, and digits count in every script. -/
def plainChar (c : Char) : Char :=
  if c.toNat < 0x80 then c
  else if isBlank c then ' '
  else match decimalValue? c with
    | some d => Char.ofNat (0x30 + d)
    | none => c

def plainForm (s : String) : List Char :=
  let cs := (s.toList.map plainChar).dropWhile isAsciiSpace
  (cs.reverse.dropWhile isAsciiSpace).reverse

def dropSeparators : Bool → List Char → Option (List Char)
  | _, [] => some []
  | afterDigit, c :: rest =>
    if c = '_' then
      if afterDigit && rest.head?.any Char.isDigit then dropSeparators false rest else none
    else (dropSeparators c.isDigit rest).map (c :: ·)

/-- Takes a sign off; true is the minus sign. -/
def takeSign : List Char → Bool × List Char
  | '-' :: rest => (true, rest)
  | '+' :: rest => (false, rest)
  | cs => (false, cs)

def digitsValue (ds : List Char) : Nat := ds.foldl (fun n c => 10 * n + (c.toNat - 0x30)) 0

def spanDigits (cs : List Char) : List Char × List Char :=
  (cs.takeWhile Char.isDigit, cs.dropWhile Char.isDigit)

/-- Reads an integer. The digits are counted before what stands after them is looked at. -/
def readInteger (s : String) : Except NumeralProblem Int :=
  let (negative, cs) := takeSign (plainForm s)
  let run := cs.takeWhile fun c => c.isDigit || c = '_'
  match dropSeparators false run with
  | none => .error .malformed
  | some ds =>
    if maxIntegerDigits < ds.length then .error (.tooManyDigits ds.length)
    else if ds = [] ∨ run.length < cs.length then .error .malformed
    else .ok (if negative then -(digitsValue ds : Int) else digitsValue ds)

/-- Reads the exponent of a decimal, which may be missing, up to the end of the text. -/
def readExponent? : List Char → Option Int
  | [] => some 0
  | c :: rest =>
    if c = 'e' ∨ c = 'E' then
      let (negative, cs) := takeSign rest
      let (ds, left) := spanDigits cs
      if ds = [] ∨ left ≠ [] then none
      else some (if negative then -(digitsValue ds : Int) else digitsValue ds)
    else none

def readDecimal? (negative : Bool) (cs : List Char) : Option Binary64 := do
  let (whole, rest) := spanDigits cs
  let (fraction, rest) := match rest with
    | '.' :: more => spanDigits more
    | _ => ([], rest)
  if whole = [] ∧ fraction = [] then none
  else
    let x ← readExponent? rest
    return Binary64.ofDecimal negative (digitsValue (whole ++ fraction)) (x - fraction.length)

def readNumber? (s : String) : Option Binary64 := do
  let cs ← dropSeparators false (plainForm s)
  let (negative, cs) := takeSign cs
  let word := String.ofList (cs.map Char.toLower)
  if word = "inf" ∨ word = "infinity" then some (.infinite negative)
  else if word = "nan" then some .nan
  else readDecimal? negative cs

end BearerAccess
