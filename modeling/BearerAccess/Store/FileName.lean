import BearerAccess.Store.Path
import BearerAccess.Text.Percent

/-!
# Names of database files

The name of a database file may be written as an address of its own: the scheme `file`, a path, and
options after a question mark, all with percent escapes. Any other name is a path as it stands.
-/

namespace BearerAccess

/-- How a file may be opened. -/
inductive OpenMode where
  | readOnly
  | readWrite
  | create
  /-- No file is opened: the database is in memory. -/
  | memory
  deriving DecidableEq, Repr

namespace OpenMode

def ofWord? (word : String) : Option OpenMode :=
  [("ro", readOnly), ("rw", readWrite), ("rwc", create), ("memory", memory)].lookup word

def rank : OpenMode → Nat
  | readOnly => 1
  | readWrite => 2
  | create => 3
  | memory => 4

/-- A mode may be put in the place of another if it allows no more, or nothing of a file. -/
def mayFollow (new old : OpenMode) : Bool := new = memory || new.rank ≤ old.rank

end OpenMode

/-- How the file of a name is opened. The name may choose a way of access, and may say that the
file never changes. -/
structure Opening where
  mode : OpenMode := .create
  access : Option String := none
  sealed : Bool := false
  deriving DecidableEq, Repr

namespace Opening

def accesses : List String := ["unix", "unix-none", "unix-excl", "unix-dotfile"]

def memoryAccess : String := "memdb"

def sharings : List String := ["shared", "private"]

/-- The truth value of an option: a number other than zero, or a word. -/
def isSet (value : String) : Bool :=
  match value.toList.takeWhile Char.isDigit with
  | [] => value.toLower ∈ ["on", "yes", "true"]
  | digits => digits.any (· ≠ '0')

def with? (o : Opening) (name value : String) : Option Opening :=
  if name = "vfs" then some { o with access := some value }
  else if name = "cache" then if value ∈ sharings then some o else none
  else if name = "mode" then
    match OpenMode.ofWord? value with
    | some mode => if mode.mayFollow o.mode then some { o with mode } else none
    | none => none
  else if name = "immutable" then some { o with sealed := o.sealed || isSet value }
  else some o

def isKnown (o : Opening) : Bool :=
  o.access.all fun name => name = memoryAccess || name ∈ accesses

def isReadOnly (o : Opening) : Bool := o.mode = .readOnly || o.sealed

end Opening

/-- The name of a database file, taken apart. -/
structure FileName where
  path : String
  opening : Opening := {}
  deriving DecidableEq, Repr

namespace FileName

/-- A part of a name with its escapes resolved, up to the first null character. -/
def part (cs : List Char) : String :=
  let bytes := percentDecodedBytes (String.ofList cs).toUTF8.data.toList
  Utf8.readLenient (bytes.takeWhile (· ≠ 0))

def option (cs : List Char) : String × String :=
  (part (cs.takeWhile (· ≠ '=')), part ((cs.dropWhile (· ≠ '=')).drop 1))

def options (cs : List Char) : List (String × String) :=
  ((cs.splitOn '&').map option).filter (·.1 ≠ "")

def withoutHost? : List Char → Option (List Char)
  | '/' :: '/' :: rest =>
    if String.ofList (rest.takeWhile (· ≠ '/')) ∈ ["", "localhost"] then
      some (rest.dropWhile (· ≠ '/'))
    else none
  | cs => some cs

def ofAddress? (cs : List Char) : Option FileName := do
  let cs ← withoutHost? (cs.takeWhile (· ≠ '#'))
  let opening ← (options ((cs.dropWhile (· ≠ '?')).drop 1)).foldlM
    (fun o given => o.with? given.1 given.2) ({} : Opening)
  if opening.isKnown then return ⟨part (cs.takeWhile (· ≠ '?')), opening⟩ else none

/-- Takes the name of a database file apart, if everything in it can be had. -/
def read? (name : String) : Option FileName :=
  match name.toList with
  | 'f' :: 'i' :: 'l' :: 'e' :: ':' :: rest => ofAddress? rest
  | _ => some ⟨name, {}⟩

def isInMemory (n : FileName) : Bool :=
  n.path = "" || n.path = ":memory:" || n.opening.mode = .memory ||
    n.opening.access = some Opening.memoryAccess

end FileName

end BearerAccess
