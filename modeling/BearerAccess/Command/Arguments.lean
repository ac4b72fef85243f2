import BearerAccess.Text.Quoted
import BearerAccess.Text.Similarity

/-!
# Command lines

The words of a command line are options, with or without a value, and arguments. Two dashes alone
end the options. A word that is no option is answered with the options that are close to it. Words
are texts as they arrive; what is told of them shows their surrogates by escapes.
-/

namespace BearerAccess

/-- An option of a command. -/
structure OptionRule where
  name : String
  takesValue : Bool
  deriving DecidableEq, Repr

/-- What is wrong with a command line. -/
inductive UsageProblem where
  | unknownOption (name : Text) (similar : List String)
  | valueMissing (name : String)
  | valueUnwanted (name : String)
  | optionMissing (name : String)
  | extraArguments (words : List String)
  | unknownCommand (name : Text) (similar : List String)
  | commandMissing
  deriving DecidableEq, Repr

def suggestion : List String → String
  | [] => ""
  | [name] => s!" Did you mean {quoted name}?"
  | names => " (Did you mean one of: " ++ ", ".intercalate (names.map quoted) ++ "?)"

namespace UsageProblem

def message : UsageProblem → String
  | unknownOption name similar => s!"No such option {name.quoted}.{suggestion similar}"
  | valueMissing name => s!"Option {quoted name} requires an argument."
  | valueUnwanted name => s!"Option {quoted name} does not take a value."
  | optionMissing name => s!"Missing option {quoted name}."
  | extraArguments [word] => s!"Got unexpected extra argument ({word})"
  | extraArguments list => "Got unexpected extra arguments (" ++ " ".intercalate list ++ ")"
  | unknownCommand name similar => s!"No such command {name.quoted}.{suggestion similar}"
  | commandMissing => "Missing command."

def showsUsage : UsageProblem → Bool
  | valueMissing _ | valueUnwanted _ => false
  | _ => true

end UsageProblem

/-- What a word of a command line is. -/
inductive Word where
  | argument
  /-- The end of the options. -/
  | terminator
  | flag (name : String)
  /-- An option with its value in the same word. -/
  | option (name : String) (value : Text)
  /-- An option whose value is the next word. -/
  | awaiting (name : String)
  | wrong (problem : UsageProblem)
  deriving DecidableEq, Repr

def dash : CodePoint := .ofChar '-'

def equalsSign : CodePoint := .ofChar '='

/-- The name that a word with dashes has as an option: for one dash, the first letter after it. -/
def optionName (word : Text) : Text :=
  if word[1]? = some dash then word.takeWhile (· ≠ equalsSign) else word.take 2

/-- The options that are close to one that there is not. Only a name after two dashes is
compared. -/
def similarOptions (rules : List OptionRule) (name : Text) : List String :=
  if name[1]? = some dash then closeNames (rules.map (·.name)) name else []

def Word.classify (rules : List OptionRule) (word : Text) : Word :=
  if word = [dash, dash] then .terminator
  else if word.head? ≠ some dash ∨ word.length < 2 then .argument
  else
    let name := optionName word
    let value := match word.dropWhile (· ≠ equalsSign) with
      | [] => none
      | _ :: rest => some rest
    match rules.find? (Text.ofString ·.name = name), value with
    | none, _ => .wrong (.unknownOption name (similarOptions rules name))
    | some ⟨name, true⟩, some value => .option name value
    | some ⟨name, true⟩, none => .awaiting name
    | some ⟨name, false⟩, some _ => .wrong (.valueUnwanted name)
    | some ⟨name, false⟩, none => .flag name

/-- The options of a command line, in their order, and its arguments. A flag has no value. -/
structure Arguments where
  options : List (String × Option Text) := []
  words : List Text := []
  deriving DecidableEq, Repr

namespace Arguments

def withOption (a : Arguments) (name : String) (value : Option Text) : Arguments :=
  { a with options := (name, value) :: a.options }

/-- Reads a command line. If options may not stand among the arguments, all words from the first
argument on are arguments. -/
def read (rules : List OptionRule) (scattered : Bool) : List Text → Except UsageProblem Arguments
  | [] => .ok {}
  | word :: rest =>
    match Word.classify rules word with
    | .terminator => .ok { words := rest }
    | .argument =>
      if scattered then
        (read rules scattered rest).map fun a => { a with words := word :: a.words }
      else .ok { words := word :: rest }
    | .flag name => (read rules scattered rest).map (·.withOption name none)
    | .option name value => (read rules scattered rest).map (·.withOption name (some value))
    | .awaiting name =>
      match rest with
      | [] => .error (.valueMissing name)
      | value :: rest => (read rules scattered rest).map (·.withOption name (some value))
    | .wrong problem => .error problem

def value? (a : Arguments) (name : String) : Option Text :=
  (a.options.reverse.lookup name).join

def hasFlag (a : Arguments) (name : String) : Bool := a.options.any (·.1 = name)

end Arguments

end BearerAccess
