/-!
# The schema

The statements that make and remove the tables, as far as they are told, and the wording of a
failure of the database at one of them.
-/

namespace BearerAccess

def creationTimeSql (dialect : String) : String :=
  if dialect = "sqlite" then
    "strftime('%Y-%m-%d %H:%M:%S', 'now') || '.' || substr(strftime('%f', 'now'), 4) || '000'"
  else "CURRENT_TIMESTAMP"

namespace Schema

def userColumns : List String :=
  ["id VARCHAR(36) NOT NULL",
   "username VARCHAR(100) NOT NULL",
   "is_staff BOOLEAN NOT NULL",
   "created_at DATETIME DEFAULT (" ++ creationTimeSql "sqlite" ++ ") NOT NULL",
   "PRIMARY KEY (id)"]

def makeUsers : String :=
  "\nCREATE TABLE users (\n\t" ++ ", \n\t".intercalate userColumns ++ "\n)\n\n"

/-- The statement that removes the table of tokens, the first to be removed. -/
def removeTokens : String := "\nDROP TABLE user_tokens"

/-- The statement that asks for the columns of the table of users, the first to be asked. -/
def askForUsers : String := "PRAGMA main.table_info(\"users\")"

def helpPage (code : String) : String := "https" ++ "://" ++ "sqlalche.me/e/21/" ++ code

/-- The wording of a failure of the database, with the statement that it came from. -/
def wording (kind code reason : String) (statement : Option String) : String :=
  let origin := match statement with
    | none => ""
    | some sql => s!"[SQL: {sql}]\n"
  s!"(sqlite3.{kind}) {reason}\n{origin}(Background on this error at: {helpPage code})"

def failureText (reason : String) (statement : Option String) : String :=
  wording "OperationalError" "e3q8" reason statement

def notDatabase : String :=
  wording "DatabaseError" "4xp6" "file is not a database" (some askForUsers)

def notOpened : String := failureText "unable to open database file" none

def keptOut (statement : String) : String := failureText "database is locked" (some statement)

end Schema

end BearerAccess
