import BearerAccess.Text.Hex
import BearerAccess.Text.Split

/-!
# Numeric hosts

The numeric addresses of hosts: four numbers with dots between them, or groups of hexadecimal digits
with colons between them, where two colons in a row stand for groups of zeros.
-/

namespace BearerAccess

namespace NumericHost

def isDigit (p : CodePoint) : Bool := p.toChar?.any Char.isDigit

def isHexDigit (p : CodePoint) : Bool := p.toChar?.any fun c => (hexValue? c).isSome

def decimalValue (digits : Text) : Nat := digits.foldl (fun n p => 10 * n + (p.val - 0x30)) 0

def isByte (t : Text) : Bool :=
  t ≠ [] && t.all isDigit && t.length ≤ 3 && (t.length = 1 || !t.head?.any (·.is '0')) &&
    decimalValue t ≤ 255

def isDotted (t : Text) : Bool :=
  let parts := t.splitAll '.'
  parts.length = 4 && parts.all isByte

def isGroup (t : Text) : Bool := t ≠ [] && t.length ≤ 4 && t.all isHexDigit

/-- The number of groups on one side of two colons, where nothing may stand. -/
def sideLength? (side : List Text) : Option Nat :=
  if side = [[]] then some 0 else if side.all isGroup then some side.length else none

def groupLimit : Nat := 8

/-- The parts between the colons of an address; four numbers at the end stand for two groups. -/
def parts (t : Text) : List Text :=
  let parts := t.splitAll ':'
  match parts.getLast? with
  | none => parts
  | some last => if isDotted last then parts.dropLast ++ (["0", "0"] : List Text) else parts

def isColoned (t : Text) : Bool :=
  let parts := parts t
  let inner := (parts.drop 1).dropLast
  if parts.length < 3 then false
  else match inner.findIdx? (· = []) with
    | none => parts.length = groupLimit && parts.all isGroup
    | some i =>
      match sideLength? (parts.take (i + 1)), sideLength? (parts.drop (i + 2)) with
      | some before, some after => before + after < groupLimit
      | _, _ => false

/-- An address of groups that may be followed by a zone, which is not empty and has no percent
sign. -/
def isZoned (t : Text) : Bool :=
  match t.splitAtFirst? '%' with
  | none => isColoned t
  | some (address, zone) => zone ≠ [] && !zone.any (·.is '%') && isColoned address

/-- A form that is kept for the future: a letter with a version, and something behind a dot. -/
def isFuture (t : Text) : Bool :=
  match t.splitAtFirst? '.' with
  | none => false
  | some (version, rest) => 1 < version.length && (version.drop 1).all isHexDigit && rest ≠ []

end NumericHost

end BearerAccess
