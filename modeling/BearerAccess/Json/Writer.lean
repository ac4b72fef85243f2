import BearerAccess.Json.Basic
import BearerAccess.Text.Hex

/-!
# Writing JSON

The compact form: no space between tokens, fields sorted by name, and only printable ASCII, with
escapes for all other code points.
-/

namespace BearerAccess

namespace Json

def unitEscape (u : Nat) : List Char := '\\' :: 'u' :: hexPadded 4 u

/-- One code point of a string: as itself, by a short escape, or by its UTF-16 code units. -/
def escape (p : CodePoint) : List Char :=
  let n := p.val
  if n = 0x22 then ['\\', '"']
  else if n = 0x5C then ['\\', '\\']
  else if n = 0x0A then ['\\', 'n']
  else if n = 0x0D then ['\\', 'r']
  else if n = 0x09 then ['\\', 't']
  else if n = 0x0C then ['\\', 'f']
  else if n = 0x08 then ['\\', 'b']
  else if 0x20 ≤ n ∧ n ≤ 0x7E then [Char.ofNat n]
  else if n < 0x10000 then unitEscape n
  else unitEscape (0xD800 + (n - 0x10000) / 0x400) ++ unitEscape (0xDC00 + (n - 0x10000) % 0x400)

def renderString (t : Text) : List Char := '"' :: t.flatMap escape ++ ['"']

def separated : List (List Char) → List Char
  | [] => []
  | [item] => item
  | item :: rest => item ++ ',' :: separated rest

def fieldOrder (a b : Text × List Char) : Bool := !List.lex b.1 a.1 fun p q => p.val < q.val

mutual

def render : Json → List Char
  | .null => ['n', 'u', 'l', 'l']
  | .bool true => ['t', 'r', 'u', 'e']
  | .bool false => ['f', 'a', 'l', 's', 'e']
  | .number literal => literal.toList
  | .string t => renderString t
  | .array items => '[' :: separated (renderItems items) ++ [']']
  | .object fields =>
    '\x7b' :: separated (((renderFields fields).mergeSort fieldOrder).map fun f =>
      renderString f.1 ++ ':' :: f.2) ++ ['\x7d']

def renderItems : List Json → List (List Char)
  | [] => []
  | item :: rest => render item :: renderItems rest

def renderFields : List (Text × Json) → List (Text × List Char)
  | [] => []
  | (name, value) :: rest => (name, render value) :: renderFields rest

end

def text (j : Json) : String := String.ofList j.render

end Json

end BearerAccess
