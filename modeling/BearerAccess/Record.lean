import BearerAccess.Json.Basic
import BearerAccess.Time.Stamp

/-!
# Records and their JSON form

A record has named fields, which hold times, other records, or anything that JSON can say. Its JSON
form is an object in which times stand in ISO form and records as objects again.
-/

namespace BearerAccess

/-- What a field of a record may hold. -/
inductive Datum where
  | plain (value : Json)
  | time (t : DateTime)
  | record (fields : List (String × Datum))
  deriving Inhabited

namespace Datum

def ofText (t : Text) : Datum := .plain (.string t)

def ofString (s : String) : Datum := ofText s

def ofBool (b : Bool) : Datum := .plain (.bool b)

def ofTime? : Option DateTime → Datum
  | none => .plain .null
  | some t => .time t

mutual

/-- The JSON form of a datum; there is none if a time cannot be converted to universal time. -/
def toJson? : Datum → Option Json
  | .plain value => some value
  | .time t => t.toUniversal?.map fun u => Json.ofString u.isoText
  | .record fields => (fieldsToJson? fields).map Json.object

def fieldsToJson? : List (String × Datum) → Option (List (Text × Json))
  | [] => some []
  | (name, value) :: rest => do
    let j ← toJson? value
    let more ← fieldsToJson? rest
    return (Text.ofString name, j) :: more

end

/-- The object of a record; what is no record gives an empty object. -/
def toObject? : Datum → Option Json
  | .record fields => toJson? (.record fields)
  | _ => some (.object [])

end Datum

end BearerAccess
