import BearerAccess.Text.Split

/-!
# Paths

Paths of files with their segments resolved, so that two paths lead to one file exactly if they are
equal.
-/

namespace BearerAccess

/-- A path: whether it begins at the root, and its segments from there or from the current
folder. -/
structure Path where
  absolute : Bool
  segments : List String
  deriving DecidableEq, Repr

namespace Path

/-- Adds a segment to the resolved ones, of which the last comes first. Two dots take one away; at
the root there is none to take. -/
def step (absolute : Bool) (done : List String) (segment : String) : List String :=
  if segment = "" ∨ segment = "." then done
  else if segment = ".." then
    match done with
    | [] => if absolute then [] else [segment]
    | last :: rest => if last = ".." then segment :: done else rest
  else segment :: done

def isRooted (s : String) : Bool := s.toList.head? = some '/'

def ofText (s : String) : Path :=
  ⟨isRooted s, ((splitString '/' s).foldl (step (isRooted s)) []).reverse⟩

/-- The paths that a segment is added to, on the way from some resolved segments. -/
def passedFrom (absolute : Bool) (done : List String) : List String → List Path
  | [] => []
  | segment :: rest =>
    let next := step absolute done segment
    let here := if done.length < next.length then [⟨absolute, done.reverse⟩] else []
    here ++ passedFrom absolute next rest

/-- The paths that are taken for folders on the way to the file that a text names. -/
def passed (s : String) : List Path := passedFrom (isRooted s) [] (splitString '/' s)

def folder (p : Path) : Path := { p with segments := p.segments.dropLast }

def isCurrent (p : Path) : Bool := !p.absolute && p.segments.all (· = "..")

def segmentLimit : Nat := 255

def isNamable (p : Path) : Bool := p.segments.all (·.utf8ByteSize ≤ segmentLimit)

def journalSuffix : String := "-journal"

def hasRoomForJournal (p : Path) : Bool :=
  p.segments.all fun s => (s ++ journalSuffix).utf8ByteSize ≤ segmentLimit

def rooted (segments : List String) : Path := ⟨true, segments⟩

def standardFolders : List Path :=
  [rooted [], rooted ["tmp"], rooted ["var", "tmp"], rooted ["dev"], rooted ["dev", "shm"],
   rooted ["etc"], rooted ["home"], rooted ["mnt"], rooted ["opt"], rooted ["root"],
   rooted ["run"], rooted ["srv"], rooted ["usr"], rooted ["usr", "local"], rooted ["var"],
   rooted ["var", "lib"], rooted ["var", "log"]]

/-- The devices of a host that pass for files without content, and why nothing can be kept in
them. -/
def devices : List (Path × String) :=
  [(rooted ["dev", "null"], "disk I/O error"), (rooted ["dev", "zero"], "disk I/O error"),
   (rooted ["dev", "random"], "disk I/O error"), (rooted ["dev", "urandom"], "disk I/O error"),
   (rooted ["dev", "full"], "database or disk is full")]

def standardFiles : List Path :=
  [rooted ["etc", "passwd"], rooted ["etc", "group"], rooted ["etc", "hosts"],
   rooted ["etc", "hostname"], rooted ["bin", "sh"]]

end Path

end BearerAccess
