import BearerAccess.Text.Split

/-!
# Help pages

The page that tells how a command is called: its usage, its purpose, and two columns with its
options and with the commands under it. The right column is broken into lines at blanks.
-/

namespace BearerAccess

/-- A row of a help page: a name, and what it means. -/
structure HelpRow where
  name : String
  meaning : String
  deriving DecidableEq, Repr

/-- A command: the words that call it, its further arguments, its purpose, and the rows for its
options and for the commands under it. -/
structure Usage where
  command : String
  arguments : String
  purpose : String
  options : List HelpRow
  commands : List HelpRow := []
  deriving DecidableEq, Repr

def pageWidth : Nat := 78

/-- The columns that stand free at the left of a row, and between its two parts. -/
def pageGap : Nat := 2

def nameLimit : Nat := 30

def meaningMinimum : Nat := 10

def spaces (count : Nat) : String := String.ofList (List.replicate count ' ')

/-- Puts words into lines of a width, as many words into each as fit. `line` is the one begun. -/
def fillLines (width : Nat) (line : String) : List String → List String
  | [] => [line]
  | word :: rest =>
    if line.length + 1 + word.length ≤ width then fillLines width (line ++ " " ++ word) rest
    else line :: fillLines width word rest

def linesWithin (width : Nat) (text : String) : List String :=
  match splitString ' ' text with
  | [] => []
  | word :: rest => fillLines width word rest

namespace HelpRow

def text (column : Nat) (r : HelpRow) : String :=
  let margin := "\n" ++ spaces (pageGap + column)
  let lines := linesWithin (max (pageWidth - column - pageGap) meaningMinimum) r.meaning
  let space :=
    if r.name.length + pageGap ≤ column then spaces (column - r.name.length) else margin
  spaces pageGap ++ r.name ++ space ++ margin.intercalate lines ++ "\n"

def listed (title : String) (rows : List HelpRow) : String :=
  if rows.isEmpty then ""
  else
    let widest := (rows.map (·.name.length)).foldl max 0
    let column := min widest nameLimit + pageGap
    s!"\n{title}:\n" ++ String.join (rows.map (·.text column))

end HelpRow

namespace Usage

def line (u : Usage) : String := s!"Usage: {u.command} {u.arguments}\n"

def page (u : Usage) : String :=
  u.line ++ s!"\n{spaces pageGap}{u.purpose}\n" ++ HelpRow.listed "Options" u.options ++
    HelpRow.listed "Commands" u.commands

end Usage

end BearerAccess
