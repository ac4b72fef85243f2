import BearerAccess.Store.Dialect
import BearerAccess.Store.FileName
import BearerAccess.Store.Url
import BearerAccess.Text.Blank
import BearerAccess.Text.LowerCase

/-!
# Locations

Where an address leads: to a file, or to a database in memory, which is new each time it is opened.
An address leads nowhere if its kind of database is unknown, needs a driver that is not there, or if
an option cannot be read. Some options are only looked at when the database is opened.
-/

namespace BearerAccess

/-- Where a database is kept. -/
inductive Location where
  | memory (writable : Bool)
  /-- A file, the paths that must not be files themselves, and how it is opened. -/
  | file (path : Path) (passed : List Path) (opening : Opening)
  /-- Nothing that can be opened. -/
  | closed
  /-- Opening fails before anything is looked for. -/
  | refused (cause : Cause)
  deriving DecidableEq, Repr

def readTruth (word : Text) : Except Failure Bool :=
  let plain := word.trimmed.lowerCase
  let among (words : List String) : Bool := words.any fun w => Text.ofString w = plain
  if among ["true", "yes", "on", "y", "t", "1"] then .ok true
  else if among ["false", "no", "off", "n", "f", "0"] then .ok false
  else .error (Cause.setting (.notTruth plain))

def fileOptions : List String :=
  ["uri", "timeout", "isolation_level", "detect_types", "check_same_thread", "cached_statements"]

def extensionOptions : List String := ["plugin", "plugins"]

namespace DatabaseUrl

def option (u : DatabaseUrl) (name : String) : List Text :=
  (u.query.filter fun o => o.1 = Text.ofString name).map (·.2)

def reads (u : DatabaseUrl) (name : String) (f : Text → Except Failure α)
    (several : Except Failure α) : Except Failure (Option α) :=
  match u.option name with
  | [] => .ok none
  | [value] => (f value).map some
  | _ => several.map some

def readsInteger (u : DatabaseUrl) (name : String) : Except Failure (Option Int) :=
  u.reads name integerSetting (.error (Cause.setting (.otherThanInteger "tuple")))

/-- The address names a host, a port or a user, as no address of a file does. -/
def isRemote (u : DatabaseUrl) : Bool :=
  let given (part : Option Text) := part.any (· ≠ [])
  given u.username || given u.password || given u.host || u.port.any (· ≠ 0)

/-- How the values of an option are written at the end of the name of a file. -/
def joinedValues : List Text → Text
  | [value] => value
  | values =>
    "(" ++ Text.ofString (", ".intercalate (values.map Text.quoted)) ++ ")"

/-- The options of an address that belong to the name of the file, in the order of their names. -/
def nameOptions (u : DatabaseUrl) : List Text :=
  let isOwn (name : Text) : Bool :=
    (fileOptions ++ extensionOptions).all fun n => Text.ofString n ≠ name
  let names := ((u.query.filter (isOwn ·.1)).mergeSort queryOrder).map (·.1)
  names.eraseDups.map fun name =>
    name ++ "=" ++ joinedValues ((u.query.filter (·.1 = name)).map (·.2))

/-- The name of a file that is an address of its own, with the options added to it. Without a name
there is nothing to open, and nothing to add options to. -/
def nestedName (u : DatabaseUrl) : Except Failure (Except Cause Text) :=
  match u.database, u.nameOptions with
  | none, [] => .ok (.error (.setting .nameMissing))
  | none, _ => .error (Cause.setting .nameMissingForOptions)
  | some name, [] => .ok (.ok name)
  | some name, options => .ok (.ok (name ++ "?" ++ Text.joined "&" options))

def isMachineInteger (n : Int) : Bool := -0x80000000 ≤ n && n < 0x80000000

/-- Why a database cannot be opened with some options, in the order in which they are looked at. -/
def obstacle? (detectTypes cachedStatements : Option Int) (isolation : Bool) : Option Cause :=
  if detectTypes.any (! isMachineInteger ·) then some (.range .wideOption)
  else if isolation then some (.setting .isolationLevel)
  else if cachedStatements.any (! isMachineInteger ·) then some (.range .wideOption)
  else none

/-- Where the name of a file leads; `nested` says that it may be an address of its own. -/
def locate (nested : Bool) (name : Text) : Location :=
  match name.toString? with
  | none => .closed
  | some s =>
    if s.toList.contains '\x00' then .refused (.setting .nullInName)
    else if nested then
      match FileName.read? s with
      | none => .closed
      | some n =>
        if n.isInMemory then .memory !n.opening.isReadOnly
        else .file (Path.ofText n.path) (Path.passed n.path) n.opening
    else if s = "" ∨ s = ":memory:" then .memory true
    else .file (Path.ofText s) [] {}

def fileLocation (u : DatabaseUrl) : Except Failure Location := do
  if u.isRemote then fail (.remoteFile (← u.text false))
  let nested := (← u.reads "uri" readTruth (.ok true)) = some true
  let _ ← u.reads "timeout" numberSetting (.error (Cause.setting (.otherThanNumber "tuple")))
  let detectTypes ← u.readsInteger "detect_types"
  let _ ← u.reads "check_same_thread" readTruth (.ok true)
  let cachedStatements ← u.readsInteger "cached_statements"
  let name ← if nested then u.nestedName else pure (.ok (u.database.getD []))
  let isolation := 1 < (u.option "isolation_level").length
  match obstacle? detectTypes cachedStatements isolation, name with
  | some cause, _ => return .refused cause
  | none, .error cause => return .refused cause
  | none, .ok name => return locate nested name

def location (u : DatabaseUrl) : Except Failure Location :=
  match u.option "plugin" with
  | name :: _ => fail (.noSuchPart "plugins" name)
  | [] =>
    match splitString '+' u.driver with
    | [kind] => load kind none
    | [kind, driver] => load kind (some driver)
    | _ => fail (.setting .tooManyParts)
where
  load (kind : String) (driver : Option String) : Except Failure Location :=
    match Dialect.find? kind driver with
    | some .files => u.fileLocation
    | some (.needs library) => fail (.noDriver library)
    | some (.noDialect shown) => fail (.noDialect shown)
    | none => fail (.noSuchPart "dialects" (".".intercalate (kind :: driver.toList)))

end DatabaseUrl

end BearerAccess
