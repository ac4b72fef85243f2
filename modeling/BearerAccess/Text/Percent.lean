import BearerAccess.Text.Encoding
import BearerAccess.Text.Hex

/-!
# Percent encoding

Bytes inside addresses, written as a percent sign and two hexadecimal digits.
-/

namespace BearerAccess

/-- The bytes of a text in UTF-8, with each escape in place of the byte that it stands for. What
only looks like an escape stays. -/
def percentDecodedBytes : List UInt8 → List UInt8
  | a :: b :: c :: rest =>
    if a = 0x25 then
      match hexValue? (Char.ofNat b.toNat), hexValue? (Char.ofNat c.toNat) with
      | some h, some l => UInt8.ofNat (16 * h + l) :: percentDecodedBytes rest
      | _, _ => a :: percentDecodedBytes (b :: c :: rest)
    else a :: percentDecodedBytes (b :: c :: rest)
  | bytes => bytes

/-- A text with its escapes resolved, in each of its runs of ASCII; bytes that are no UTF-8 are
replaced. -/
def percentDecoded (t : Text) : Text :=
  (t.splitBy fun p q => p.isAscii == q.isAscii).flatMap fun run =>
    if run.any (! ·.isAscii) then run
    else Utf8.readLenient (percentDecodedBytes (run.map fun p => UInt8.ofNat p.val))

def percentEscape (b : UInt8) : List Char := '%' :: (hexByte b).map Char.toUpper

def isUnreserved (c : Char) : Bool :=
  c.isAlphanum || c = '_' || c = '.' || c = '-' || c = '~'

/-- A character, escaped unless it is unreserved or one of the given safe ones. -/
def escaped (safe : List Char) (c : Char) : List Char :=
  if isUnreserved c || safe.contains c then [c]
  else (String.singleton c).toUTF8.data.toList.flatMap percentEscape

/-- A text with escapes for all but unreserved and the given safe characters. -/
def percentEncoded (safe : List Char) (s : String) : String :=
  String.ofList (s.toList.flatMap (escaped safe))

/-- A text as a part of a query: spaces are written as plus signs. -/
def queryEncoded (s : String) : String :=
  String.ofList (s.toList.flatMap fun c => if c = ' ' then ['+'] else escaped [] c)

def queryDecoded (t : Text) : Text :=
  percentDecoded (t.map fun p => if p.is '+' then .ofChar ' ' else p)

end BearerAccess
