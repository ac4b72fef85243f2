import BearerAccess.Number.Rounded
import BearerAccess.Text.CodePoint

/-!
# Labels

The name of a new token, as a setting may give it. The database keeps a number as its text; it has
no room for large integers, and takes nothing but texts and numbers.
-/

namespace BearerAccess

/-- The name of a new token, as it is given. -/
inductive Label where
  | text (t : Text)
  | missing
  /-- An integer that the database has no room for. -/
  | tooLarge
  /-- A value that is neither a text nor a number. -/
  | unstorable
  deriving DecidableEq, Repr

namespace Label

def ofText? : Option Text → Label
  | some t => .text t
  | none => .missing

/-- The label of an integer. The database has room for 64 bits. -/
def ofInteger (n : Int) : Label :=
  if -0x8000000000000000 ≤ n ∧ n < 0x8000000000000000 then .text (toString n) else .tooLarge

/-- The label of a number; no number counts as none. -/
def ofNumber (x : Binary64) : Label := ofText? (x.storedText?.map Text.ofString)

def text? : Label → Option Text
  | .text t => some t
  | _ => none

end Label

end BearerAccess
