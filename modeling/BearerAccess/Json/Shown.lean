import BearerAccess.Json.Basic
import BearerAccess.Number.Numeral
import BearerAccess.Number.Shortest
import BearerAccess.Text.Quoted

/-!
# JSON values in messages

How a value is shown inside a message: texts between quotes, numbers in their shortest form, and the
parts of arrays and objects in their order.
-/

namespace BearerAccess

namespace Json

/-- How a number is shown: an integer by its digits, any other by its shortest decimal. -/
def shownNumber (literal : String) : String :=
  match literal.toInt?, readNumber? literal with
  | some n, _ => toString n
  | none, some x => x.text
  | none, none => literal

mutual

def shown : Json → String
  | .null => "None"
  | .bool b => if b then "True" else "False"
  | .number literal => shownNumber literal
  | .string t => t.quoted
  | .array items => "[" ++ ", ".intercalate (shownItems items) ++ "]"
  | .object fields => "\x7b" ++ ", ".intercalate (shownFields fields) ++ "\x7d"

def shownItems : List Json → List String
  | [] => []
  | item :: rest => item.shown :: shownItems rest

def shownFields : List (Text × Json) → List String
  | [] => []
  | (name, value) :: rest => (name.quoted ++ ": " ++ value.shown) :: shownFields rest

end

end Json

end BearerAccess
