import BearerAccess.Text.CodePoint

/-!
# Reading code points from bytes

UTF-8, UTF-16 and UTF-32 readers that let surrogates pass, and a UTF-8 reader that puts U+FFFD in
the place of what is malformed.
-/

namespace BearerAccess

/-- The order of the bytes of a code unit. -/
inductive ByteOrder where
  | bigEndian
  | littleEndian
  deriving DecidableEq, Repr

/-- An encoding of texts as bytes. -/
inductive Encoding where
  | utf8
  | utf16 (order : ByteOrder)
  | utf32 (order : ByteOrder)
  deriving DecidableEq, Repr

def CodePoint.ofNat? (n : Nat) : Option CodePoint :=
  if h : n < 0x110000 then some ⟨n, h⟩ else none

namespace Utf8

/-- A character begun: the value of its bits so far, the range that its next byte lies in, and the
number of bytes of any kind after that one. -/
structure Begun where
  bits : Nat
  low : UInt8
  high : UInt8
  owed : Nat

/-- What the first byte of a character says: a whole character, or one begun. -/
inductive Lead where
  | whole (n : Nat)
  | begun (b : Begun)

/-- Reads the first byte of a character; `surrogates` says whether one may be a surrogate. -/
def lead? (surrogates : Bool) (b : UInt8) : Option Lead :=
  if b ≤ 0x7F then some (.whole b.toNat)
  else if 0xC2 ≤ b && b ≤ 0xDF then some (.begun ⟨b.toNat - 0xC0, 0x80, 0xBF, 0⟩)
  else if b = 0xE0 then some (.begun ⟨0, 0xA0, 0xBF, 1⟩)
  else if b = 0xED && !surrogates then some (.begun ⟨0xD, 0x80, 0x9F, 1⟩)
  else if 0xE1 ≤ b && b ≤ 0xEF then some (.begun ⟨b.toNat - 0xE0, 0x80, 0xBF, 1⟩)
  else if b = 0xF0 then some (.begun ⟨0, 0x90, 0xBF, 2⟩)
  else if 0xF1 ≤ b && b ≤ 0xF3 then some (.begun ⟨b.toNat - 0xF0, 0x80, 0xBF, 2⟩)
  else if b = 0xF4 then some (.begun ⟨4, 0x80, 0x8F, 2⟩)
  else none

def Begun.add? (c : Begun) (b : UInt8) : Option Lead :=
  if c.low ≤ b && b ≤ c.high then
    let bits := c.bits * 64 + (b.toNat - 0x80)
    match c.owed with
    | 0 => some (.whole bits)
    | owed + 1 => some (.begun ⟨bits, 0x80, 0xBF, owed⟩)
  else none

def readFrom : Option Begun → List UInt8 → Option Text
  | none, [] => some []
  | some _, [] => none
  | begun, b :: rest =>
    let next := match begun with
      | none => lead? true b
      | some c => c.add? b
    match next with
    | none => none
    | some (.begun c) => readFrom (some c) rest
    | some (.whole n) => do
      let p ← CodePoint.ofNat? n
      return p :: (← readFrom none rest)

def read (bytes : List UInt8) : Option Text := readFrom none bytes

/-- Reads UTF-8 after a character begun, and puts U+FFFD for each longest malformed beginning of a
character. -/
def readLenientFrom : Option Begun → List UInt8 → List Char
  | none, [] => []
  | some _, [] => ['\uFFFD']
  | begun, b :: rest =>
    let fresh := lead? false b
    let (spoilt, next) := match begun with
      | none => ([], fresh)
      | some c =>
        match c.add? b with
        | some l => ([], some l)
        | none => (['\uFFFD'], fresh)
    spoilt ++ match next with
      | none => '\uFFFD' :: readLenientFrom none rest
      | some (.begun c) => readLenientFrom (some c) rest
      | some (.whole n) => Char.ofNat n :: readLenientFrom none rest

/-- The text of bytes that should be UTF-8; what is not is replaced. -/
def readLenient (bytes : List UInt8) : String := String.ofList (readLenientFrom none bytes)

end Utf8

namespace Utf16

def unit (order : ByteOrder) (a b : UInt8) : Nat :=
  match order with
  | .bigEndian => a.toNat * 256 + b.toNat
  | .littleEndian => b.toNat * 256 + a.toNat

def units (order : ByteOrder) : List UInt8 → Option (List Nat)
  | [] => some []
  | [_] => none
  | a :: b :: rest => (units order rest).map (unit order a b :: ·)

/-- Joins the pairs of surrogates among code units; a surrogate without partner stays. -/
def join : List Nat → Option Text
  | [] => some []
  | [u] => (CodePoint.ofNat? u).map ([·])
  | u :: v :: rest =>
    if 0xD800 ≤ u ∧ u < 0xDC00 ∧ 0xDC00 ≤ v ∧ v < 0xE000 then do
      let p ← CodePoint.ofNat? (0x10000 + (u - 0xD800) * 0x400 + (v - 0xDC00))
      return p :: (← join rest)
    else do
      let p ← CodePoint.ofNat? u
      return p :: (← join (v :: rest))

def read (order : ByteOrder) (bytes : List UInt8) : Option Text := units order bytes >>= join

end Utf16

def Utf32.read (order : ByteOrder) : List UInt8 → Option Text
  | [] => some []
  | a :: b :: c :: d :: rest => do
    let n := match order with
      | .bigEndian => Utf16.unit order a b * 0x10000 + Utf16.unit order c d
      | .littleEndian => Utf16.unit order c d * 0x10000 + Utf16.unit order a b
    let p ← CodePoint.ofNat? n
    return p :: (← Utf32.read order rest)
  | _ => none

/-- Reads bytes in an encoding; surrogates pass. -/
def Encoding.read : Encoding → List UInt8 → Option Text
  | .utf8, bytes => Utf8.read bytes
  | .utf16 order, bytes => Utf16.read order bytes
  | .utf32 order, bytes => Utf32.read order bytes

end BearerAccess
