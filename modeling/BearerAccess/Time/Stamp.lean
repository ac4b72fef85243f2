import BearerAccess.Time.DateTime

/-!
# Written times

Two ways to write a universal time: the ISO form of answers, and the form that the database keeps
and compares as text.
-/

namespace BearerAccess

def decimalPadded : Nat → Nat → List Char
  | 0, _ => []
  | width + 1, n => decimalPadded width (n / 10) ++ [Char.ofNat (0x30 + n % 10)]

namespace DateTime

def dateText (d : DateTime) : List Char :=
  decimalPadded 4 d.year ++ '-' :: decimalPadded 2 d.month ++ '-' :: decimalPadded 2 d.day

def timeText (d : DateTime) : List Char :=
  decimalPadded 2 d.hour ++ ':' :: decimalPadded 2 d.minute ++ ':' :: decimalPadded 2 d.second

/-- The ISO form of a universal time; a fraction of zero is not written. -/
def isoText (d : DateTime) : String :=
  let fraction := if d.microsecond = 0 then [] else '.' :: decimalPadded 6 d.microsecond
  String.ofList (d.dateText ++ 'T' :: d.timeText ++ fraction ++ ['+', '0', '0', ':', '0', '0'])

end DateTime

/-- A time as the database keeps it: digits of fixed width, from the year down to the microsecond,
so that later times have greater texts. -/
structure Stamp where
  text : String
  deriving DecidableEq, Repr

namespace Stamp

def ofDateTime (d : DateTime) : Stamp :=
  ⟨String.ofList (d.dateText ++ ' ' :: d.timeText ++ '.' :: decimalPadded 6 d.microsecond)⟩

def readDigits : Nat → Nat → List Char → Option (Nat × List Char)
  | 0, n, cs => some (n, cs)
  | _ + 1, _, [] => none
  | width + 1, n, c :: cs =>
    if c.isDigit then readDigits width (10 * n + (c.toNat - 0x30)) cs else none

def readMark (mark : Char) : List Char → Option (List Char)
  | [] => none
  | c :: cs => if c = mark then some cs else none

/-- Reads a time back; it carries no offset. -/
def toDateTime? (s : Stamp) : Option DateTime := do
  let (year, cs) ← readDigits 4 0 s.text.toList
  let (month, cs) ← readMark '-' cs >>= readDigits 2 0
  let (day, cs) ← readMark '-' cs >>= readDigits 2 0
  let (hour, cs) ← readMark ' ' cs >>= readDigits 2 0
  let (minute, cs) ← readMark ':' cs >>= readDigits 2 0
  let (second, cs) ← readMark ':' cs >>= readDigits 2 0
  let (microsecond, _) ← readMark '.' cs >>= readDigits 6 0
  return ⟨year, month, day, hour, minute, second, microsecond, none⟩

def isAfter (a b : Stamp) : Bool := b.text < a.text

end Stamp

end BearerAccess
