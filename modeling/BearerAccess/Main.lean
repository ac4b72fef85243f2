import BearerAccess.Command.CommandLine
import Std.Time.DateTime.Timestamp

/-!
# The program

Runs the command line against a database in memory, with the clock, the randomness and the
environment of the process. Messages of the log and failures that the command does not explain go
to standard error.
-/

namespace BearerAccess

/-- The world of a process: its clock, bytes for its draws, and an empty database in memory. -/
def World.ofProcess (milliseconds : Int) (draws : List (List UInt8)) : World :=
  { clock := milliseconds
    entropy := draws.map Draw.bytes
    database := { tables := none }
    databaseUrl := "sqlite://" }

def processEnvironment : IO Environment := do
  match ← IO.getEnv "DATABASE_URL" with
  | some url => return [("DATABASE_URL", url)]
  | none => return []

def processDraws : IO (List (List UInt8)) :=
  (List.replicate 3 (USize.ofNat secretSize)).mapM fun size => do
    return (← IO.getRandomBytes size).data.toList

def runProcess (args : List String) : IO UInt32 := do
  let now ← Std.Time.Timestamp.now
  let start := World.ofProcess now.toMillisecondsSinceUnixEpoch.val (← processDraws)
  let (report, finish) := CommandLine.run {} (args.map Text.ofString) (← processEnvironment) start
  for entry in finish.log do IO.eprintln entry.text.escaped
  IO.print report.output
  for failure in report.escaped do IO.eprintln failure.message
  return UInt32.ofNat report.exitCode

end BearerAccess

def main (args : List String) : IO UInt32 := BearerAccess.runProcess args
