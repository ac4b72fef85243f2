import BearerAccess.Text.CodePoint

/-!
# JSON values

Values of JSON documents. Numbers keep the way they are written, and objects the order of their
fields.
-/

namespace BearerAccess

/-- A JSON value. -/
inductive Json where
  | null
  | bool (b : Bool)
  | number (literal : String)
  | string (t : Text)
  | array (items : List Json)
  | object (fields : List (Text × Json))
  deriving Inhabited

namespace Json

def ofString (s : String) : Json := .string (Text.ofString s)

def ofInt (n : Int) : Json := .number (toString n)

def ofString? : Option String → Json
  | none => .null
  | some s => ofString s

def record (fields : List (String × Json)) : Json :=
  .object (fields.map fun f => (Text.ofString f.1, f.2))

/-- The field of an object with a given name, the last one if there are several. -/
def field? (fields : List (Text × Json)) (name : String) : Option Json :=
  (fields.reverse.find? fun f => f.1 = Text.ofString name).map (·.2)

end Json

end BearerAccess
