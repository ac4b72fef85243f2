import BearerAccess.Text.CodePoint
import BearerAccess.Text.Hex
import BearerAccess.Text.Printable

/-!
# Quoted texts

How a text is shown inside a message: between quotes, with backslash escapes for what is not
printable. The quote is an apostrophe unless the text holds apostrophes and no quotation marks.
-/

namespace BearerAccess

/-- The escape of a code point by its number, in the shortest of three widths. -/
def numericEscape (n : Nat) : List Char :=
  if n < 0x100 then '\\' :: 'x' :: hexPadded 2 n
  else if n < 0x10000 then '\\' :: 'u' :: hexPadded 4 n
  else '\\' :: 'U' :: hexPadded 8 n

def quotedChar (mark c : Char) : List Char :=
  if c = mark ∨ c = '\\' then ['\\', c]
  else if c = '\n' then ['\\', 'n']
  else if c = '\r' then ['\\', 'r']
  else if c = '\t' then ['\\', 't']
  else if isPrintable c then [c]
  else numericEscape c.toNat

/-- One code point of a quoted text. Surrogates are not printable. -/
def quotedPoint (mark : Char) (p : CodePoint) : List Char :=
  match p.toChar? with
  | some c => quotedChar mark c
  | none => numericEscape p.val

def Text.quoted (t : Text) : String :=
  let holds (c : Char) : Bool := t.contains (CodePoint.ofChar c)
  let mark := if holds '\'' && !holds '"' then '"' else '\''
  String.ofList (mark :: t.flatMap (quotedPoint mark) ++ [mark])

def quoted (s : String) : String := (Text.ofString s).quoted

/-- The beginning of a text between quotes; the closing quote is lost if the whole is longer. -/
def Text.quotedUpTo (limit : Nat) (t : Text) : String := String.ofList (t.quoted.toList.take limit)

def Text.escaped (t : Text) : String :=
  String.ofList (t.flatMap fun p =>
    match p.toChar? with
    | some c => [c]
    | none => numericEscape p.val)

end BearerAccess
