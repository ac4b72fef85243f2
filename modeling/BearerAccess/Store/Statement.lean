import BearerAccess.Text.CodePoint

/-!
# Statements

What the database is asked to do, with the texts that it is given, and what a failure of the store is
raised from.
-/

namespace BearerAccess

/-- A statement that is given texts: one that inserts a row, or asks for what a text names. A row
without an id is inserted by a statement of its own. -/
inductive Statement where
  | user
  | userWithoutId
  | token
  | tokenWithoutId
  | userById
  | userByUsername
  | ownerOfSecret
  | tokensOf
  | tokenById
  deriving DecidableEq, Repr

/-- A text that a statement is given, with secrets apart from all others. -/
inductive Parameter where
  | secret (t : Option Text)
  | other (t : Option Text)
  deriving DecidableEq, Repr

/-- What a failure of the store is raised from. -/
inductive Origin where
  /-- A method of a session failed with a message. -/
  | method (message : Text)
  /-- The database could not be opened. -/
  | unopened
  /-- The database refused a statement. The error shows the texts that the statement was given, long
  ones in part; it has no name here if it was given none. -/
  | refused (statement : Option Statement) (parameters : List Parameter)
  deriving DecidableEq, Repr

/-- The first of some methods that fails, or else something that comes after them. -/
def Origin.first (methods : List (Option Text)) (last : Origin) : Origin :=
  (methods.findSome? id).elim last method

end BearerAccess
