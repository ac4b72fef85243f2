import BearerAccess.Account

/-!
# Answers

What the operations of the library answer with, and the JSON form of it.
-/

namespace BearerAccess

/-- What an operation answers with. -/
inductive Answer where
  | nothing
  | truth (b : Bool)
  | user (u : User)
  | users (list : List User)
  | token (k : Token)
  | tokens (list : List Token)
  | identity (i : Option Identity)
  | credentials (c : Credentials)
  deriving DecidableEq, Repr

/-- The JSON form of a record; null stands in for one with a time that cannot be shown. -/
def Datum.shown (d : Datum) : Json := d.toObject?.getD .null

def Answer.toJson : Answer → Json
  | nothing => .null
  | truth b => .bool b
  | user u => u.toDatum.shown
  | users list => .array (list.map (·.toDatum.shown))
  | token k => k.toDatum.shown
  | tokens list => .array (list.map (·.toDatum.shown))
  | identity none => .null
  | identity (some i) => i.toDatum.shown
  | credentials c => c.toDatum.shown

end BearerAccess
