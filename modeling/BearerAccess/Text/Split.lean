import BearerAccess.Text.CodePoint

/-!
# Splitting texts

Texts taken apart at marks that stand in them, and put together again.
-/

namespace BearerAccess

def occursIn [BEq α] (part : List α) : List α → Bool
  | [] => part.isEmpty
  | a :: rest => part.isPrefixOf (a :: rest) || occursIn part rest

/-- Splits a string at each occurrence of a character, which is dropped. -/
def splitString (mark : Char) (s : String) : List String :=
  (s.toList.splitOn mark).map String.ofList

namespace Text

def spanWhile (p : CodePoint → Bool) (t : Text) : Text × Text := (t.takeWhile p, t.dropWhile p)

/-- Splits a text at the last occurrence of a character, which is dropped. -/
def splitAtLast? (mark : Char) (t : Text) : Option (Text × Text) :=
  let tail := (t.reverse.takeWhile (! ·.is mark)).reverse
  if tail.length = t.length then none
  else some (t.take (t.length - tail.length - 1), tail)

/-- Splits a text at the first occurrence of a character, which is dropped. -/
def splitAtFirst? (mark : Char) (t : Text) : Option (Text × Text) :=
  match t.dropWhile (! ·.is mark) with
  | [] => none
  | _ :: rest => some (t.takeWhile (! ·.is mark), rest)

def splitWhere (p : CodePoint → Bool) : Text → List Text
  | [] => [[]]
  | q :: rest =>
    match splitWhere p rest with
    | [] => [[q]]
    | part :: parts => if p q then [] :: part :: parts else (q :: part) :: parts

def splitAll (mark : Char) (t : Text) : List Text := t.splitWhere (·.is mark)

def joined (mark : Text) : List Text → Text
  | [] => []
  | [t] => t
  | t :: rest => t ++ mark ++ joined mark rest

end Text

end BearerAccess
