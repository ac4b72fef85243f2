import BearerAccess.Text.CodePoint

/-!
# White space

The code points that separate words, the words of a text, and blank texts.
-/

namespace BearerAccess

def blanks : CodeRanges :=
  [(0x9, 0xD), (0x1C, 0x20), (0x85, 0x85), (0xA0, 0xA0), (0x1680, 0x1680), (0x2000, 0x200A),
   (0x2028, 0x2029), (0x202F, 0x202F), (0x205F, 0x205F), (0x3000, 0x3000)]

def CodePoint.isBlank (p : CodePoint) : Bool := blanks.holds p.val

def isBlank (c : Char) : Bool := blanks.holds c.toNat

namespace Text

/-- The words of a text: its longest runs without white space. -/
def words : Text → List Text
  | [] => []
  | p :: rest =>
    if p.isBlank then words rest
    else match rest with
      | [] => [[p]]
      | q :: _ =>
        if q.isBlank then [p] :: words rest
        else match words rest with
          | [] => [[p]]
          | w :: ws => (p :: w) :: ws

def trimmed (t : Text) : Text :=
  ((t.dropWhile CodePoint.isBlank).reverse.dropWhile CodePoint.isBlank).reverse

def isBlank (t : Text) : Bool := t.all CodePoint.isBlank

end Text

end BearerAccess
