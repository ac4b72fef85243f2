import BearerAccess.Json.Reader

/-!
# JSON documents as bytes

The encoding of a document shows in its first bytes: a byte order mark, or the zeros that UTF-16 and
UTF-32 put beside an ASCII character.
-/

namespace BearerAccess

def documentEncoding (bytes : List UInt8) : Encoding × List UInt8 :=
  match bytes with
  | 0x00 :: 0x00 :: 0xFE :: 0xFF :: rest => (.utf32 .bigEndian, rest)
  | 0xFF :: 0xFE :: 0x00 :: 0x00 :: rest => (.utf32 .littleEndian, rest)
  | 0xFE :: 0xFF :: rest => (.utf16 .bigEndian, rest)
  | 0xFF :: 0xFE :: rest => (.utf16 .littleEndian, rest)
  | 0xEF :: 0xBB :: 0xBF :: rest => (.utf8, rest)
  | a :: b :: c :: d :: _ =>
    if a = 0 then (if b = 0 then .utf32 .bigEndian else .utf16 .bigEndian, bytes)
    else if b = 0 then
      (if c = 0 ∧ d = 0 then .utf32 .littleEndian else .utf16 .littleEndian, bytes)
    else (.utf8, bytes)
  | [a, b] =>
    if a = 0 then (.utf16 .bigEndian, bytes)
    else if b = 0 then (.utf16 .littleEndian, bytes)
    else (.utf8, bytes)
  | _ => (.utf8, bytes)

def Json.ofBytes (limit : Nat) (bytes : List UInt8) : Except DocumentProblem Json :=
  let (encoding, content) := documentEncoding bytes
  match encoding.read content with
  | some t => Json.ofText limit t
  | none => .error .malformed

end BearerAccess
