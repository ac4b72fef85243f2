import BearerAccess.Text.CodePoint

/-!
# Similar texts

How much two texts have in common: their longest shared block, and what the parts before it and
after it have in common in turn. A word that is no name can so be answered with the names close to
it.
-/

namespace BearerAccess

/-- A block that stands in two texts: where it begins in each, and its length. -/
structure SharedBlock where
  left : Nat
  right : Nat
  length : Nat
  deriving DecidableEq, Repr

def SharedBlock.longer (a b : SharedBlock) : SharedBlock := if a.length < b.length then b else a

def sharedStart [DecidableEq α] : List α → List α → Nat
  | a :: as, b :: bs => if a = b then sharedStart as bs + 1 else 0
  | _, _ => 0

/-- The longest block that begins a text and stands in another one, of which `j` characters have
been passed. -/
def longestOpening [DecidableEq α] (i : Nat) (as : List α) (j : Nat) : List α → SharedBlock
  | [] => ⟨i, j, 0⟩
  | b :: bs =>
    SharedBlock.longer ⟨i, j, sharedStart as (b :: bs)⟩ (longestOpening i as (j + 1) bs)

/-- The longest block of two texts, the earliest of several. Of the first text `i` characters have
been passed. -/
def longestShared [DecidableEq α] (bs : List α) (i : Nat) : List α → SharedBlock
  | [] => ⟨i, 0, 0⟩
  | a :: as => (longestOpening i (a :: as) 0 bs).longer (longestShared bs (i + 1) as)

def sharedCount [DecidableEq α] (as bs : List α) : Nat :=
  match longestShared bs 0 as with
  | ⟨i, j, n⟩ =>
    if 0 < n ∧ i + n ≤ as.length then
      sharedCount (as.take i) (bs.take j) + n + sharedCount (as.drop (i + n)) (bs.drop (j + n))
    else 0
termination_by as.length
decreasing_by all_goals simp only [List.length_take, List.length_drop]; omega

/-- How alike two texts are: the characters in common, of all characters of both. -/
structure Likeness where
  common : Nat
  total : Nat
  deriving DecidableEq, Repr

def likeness (name : String) (word : Text) : Likeness :=
  ⟨sharedCount (Text.ofString name) word, name.length + word.length⟩

/-- Texts are close if at least three fifths of their characters are in common. -/
def Likeness.isClose (l : Likeness) : Bool := 3 * l.total ≤ 10 * l.common

def Likeness.above (a b : Likeness) : Bool := b.common * a.total < a.common * b.total

def closeNameLimit : Nat := 3

/-- The names that are close to a word, in alphabetical order. If there are many, they are the
closest, and of equally close ones the last. -/
def closeNames (names : List String) (word : Text) : List String :=
  let rated := (names.map fun n => (likeness n word, n)).filter fun r => r.1.isClose
  let best := rated.mergeSort fun a b =>
    a.1.above b.1 || (!b.1.above a.1 && !decide (a.2 < b.2))
  ((best.take closeNameLimit).map (·.2)).mergeSort fun a b => !decide (b < a)

end BearerAccess
