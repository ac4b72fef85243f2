import BearerAccess.Command.Arguments
import BearerAccess.Command.HelpPage
import BearerAccess.Command.Retry
import BearerAccess.Issuance
import BearerAccess.Store.Engine
import BearerAccess.Store.Files
import BearerAccess.Text.Printed
import BearerAccess.Text.UpperCase

/-!
# The command line

The command that creates a staff user, the first of whom nobody could create otherwise. It waits for
the database, creates the tables if it is asked to, and prints the secret of the new user.
-/

namespace BearerAccess

/-- What a run of the command line comes to. -/
structure Report where
  exitCode : Nat
  output : String := ""
  /-- The waits for the database, in milliseconds. -/
  waits : List Nat := []
  /-- A failure that the command does not explain. -/
  escaped : Option Failure := none
  /-- The user that has been created, with its token. -/
  created : Option Credentials := none
  deriving DecidableEq, Repr

namespace Report

def failed (reason : Text) (waits : List Nat) : Report :=
  { exitCode := 1, output := s!"Error: {reason.escaped}\n", waits }

def escape (failure : Failure) (waits : List Nat) : Report :=
  { exitCode := 1, waits, escaped := some failure }

end Report

/-- Why a command line is not carried out. -/
inductive Halt where
  /-- The help page is shown: it was asked for, or no words were given. -/
  | help (asked : Bool)
  | problem (p : UsageProblem)
  deriving DecidableEq, Repr

def Usage.halt (u : Usage) : Halt → Report
  | .help asked => { exitCode := if asked then 0 else 2, output := u.page }
  | .problem p =>
    let shown :=
      if p.showsUsage then s!"{u.line}Try '{u.command} --help' for help.\n\n" else ""
    { exitCode := 2, output := s!"{shown}Error: {p.message}\n" }

namespace CommandLine

def commandName : String := "create-staff-user"

def defaultLevel : String := "INFO"

def helpRow : HelpRow := ⟨"--help", "Show this message and exit."⟩

def creation : Usage :=
  { command := "cli " ++ commandName
    arguments := "[OPTIONS]"
    purpose := "Create a staff user and print its token."
    options :=
      [⟨"--username TEXT", "Username for the staff user.  [required]"⟩,
       ⟨"--database-url TEXT", "Database connection URL."⟩,
       ⟨"--create-db", "Create the tables first, if they do not exist."⟩, helpRow] }

def program : Usage :=
  { command := "cli"
    arguments := "[OPTIONS] COMMAND [ARGS]..."
    purpose := "Facility reservation administration."
    options :=
      [⟨"--log-level TEXT",
        s!"Log level for the facility_reservation logger.  [default: {defaultLevel}]"⟩, helpRow]
    commands := [⟨commandName, creation.purpose⟩] }

def helpRule : OptionRule := ⟨"--help", false⟩

def programRules : List OptionRule := [⟨"--log-level", true⟩, helpRule]

def creationRules : List OptionRule :=
  [⟨"--username", true⟩, ⟨"--database-url", true⟩, ⟨"--create-db", false⟩, helpRule]

def explains : Cause → Bool
  | .usernameTaken _ | .entropyUnavailable | .store _ | .username _ | .unencodable _ _ => true
  | .setting .isolationLevel | .setting .nullInName => true
  | _ => false

def report (failure : Failure) (waits : List Nat) : Report :=
  if explains failure.cause then .failed failure.message waits else .escape failure waits

def moreTries : Nat := 2

def firstWait : Nat := 500

def noteWait (wait : Nat) : World → World := fun w =>
  w.write .warning .command
    (StoreFailure.notAvailable.text ++ s!", retrying in {secondsText wait} seconds...")

def awaitDatabase : StateM World Waiting :=
  retry Store.isAvailable (fun wait => modify (noteWait wait)) firstWait moreTries

/-- A staff user to be created. -/
structure Order where
  username : Text
  address : Text
  createTables : Bool
  deriving DecidableEq, Repr

def poolRequest : PoolRequest := { statementTimeout := some (.whole 10) }

def create (store : Store) (order : Order) : Action Credentials := do
  if order.createTables then Store.createTables
  bootstrapStaffUser store (some order.username) (.text Settings.defaultTokenName)

def announcement (c : Credentials) : String :=
  s!"Created staff user {c.user.username} ({c.user.userId})\nToken: {c.token.secret}\n"

def carryOut (store : Store) (order : Order) : StateM World Report := do
  let waiting ← awaitDatabase
  if !waiting.succeeded then
    return .failed StoreFailure.notAvailable.text waiting.waits
  match ← (create store order).run with
  | .ok made =>
    return { exitCode := 0, output := announcement made, waits := waiting.waits, created := made }
  | .error failure => return report failure waiting.waits

def serve (store : Store) (order : Order) : StateM World Report := do
  match ← (openDatabase order.address poolRequest).run with
  | .error failure => return .escape failure []
  | .ok location =>
    match ← World.apart (World.onDatabase location (carryOut store order)) with
    | .ok report => return report
    | .error cause => return report cause []

/-- The address that the command works on: from its option, else from the environment, where an
empty text counts for none. -/
def address (a : Arguments) (env : Environment) : Text :=
  let given := a.value? "--database-url" <|> (env.lookup "DATABASE_URL").filter (· ≠ [])
  given.getD Settings.defaultDatabaseUrl

/-- Reads words by some rules. Asking for the help page counts before all that the words lack. -/
def readArguments (rules : List OptionRule) (scattered : Bool) (words : List Text) :
    Except Halt Arguments :=
  match Arguments.read rules scattered words with
  | .error problem => .error (.problem problem)
  | .ok arguments =>
    if arguments.hasFlag helpRule.name then .error (.help true) else .ok arguments

def readOrder (words : List Text) (env : Environment) : Except Halt Order := do
  let arguments ← readArguments creationRules true words
  match arguments.value? "--username" with
  | none => throw (.problem (.optionMissing "--username"))
  | some username =>
    if arguments.words ≠ [] then
      throw (.problem (.extraArguments (arguments.words.map Text.escaped)))
    return ⟨username, address arguments env, arguments.hasFlag "--create-db"⟩

/-- The words in front of the command: the level that they set, and the words after the command. -/
def readProgram (words : List Text) : Except Halt (Text × List Text) := do
  if words.isEmpty then throw (.help false)
  let arguments ← readArguments programRules false words
  match arguments.words with
  | [] => throw (.problem .commandMissing)
  | name :: rest =>
    if name ≠ Text.ofString commandName then
      let _ ← readArguments programRules false arguments.words
      throw (.problem (.unknownCommand name (closeNames [commandName] name)))
    return ((arguments.value? "--log-level").getD (Text.ofString defaultLevel), rest)

/-- Answers a command line. The level is put in force before the words after the command are
read. -/
def answer (store : Store) (words : List Text) (env : Environment) : StateM World Report := do
  match readProgram words with
  | .error halt => return program.halt halt
  | .ok (level, rest) =>
    match (Level.named level.upperCase).rank? with
    | .error failure => return .escape failure []
    | .ok rank =>
      modify fun w => { w with threshold := rank }
      match readOrder rest env with
      | .error halt => return creation.halt halt
      | .ok order => serve store order

def run (store : Store) (words : List Text) (env : Environment) : StateM World Report := do
  let report ← answer store words env
  return { report with output := printed report.output }

end CommandLine

end BearerAccess
