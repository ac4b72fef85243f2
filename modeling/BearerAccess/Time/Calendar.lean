/-!
# The calendar

Days of the Gregorian calendar, counted from the first day of year 1, and the year, month and day
of such a count.
-/

namespace BearerAccess

def isLeapYear (y : Nat) : Bool := y % 4 == 0 && (y % 100 != 0 || y % 400 == 0)

def daysBeforeYear (y : Nat) : Nat := 365 * (y - 1) + (y - 1) / 4 - (y - 1) / 100 + (y - 1) / 400

def daysInMonth (leap : Bool) (m : Nat) : Nat :=
  match m with
  | 2 => if leap then 29 else 28
  | 4 | 6 | 9 | 11 => 30
  | _ => 31

def daysBeforeMonth (leap : Bool) : Nat → Nat
  | 0 => 0
  | 1 => 0
  | m + 1 => daysBeforeMonth leap m + daysInMonth leap m

/-- A day of the calendar. -/
structure Date where
  year : Nat
  month : Nat
  day : Nat
  deriving DecidableEq, Repr

namespace Date

def Valid (d : Date) : Prop :=
  1 ≤ d.year ∧ d.year ≤ 9999 ∧ 1 ≤ d.month ∧ d.month ≤ 12 ∧
    1 ≤ d.day ∧ d.day ≤ daysInMonth (isLeapYear d.year) d.month

instance (d : Date) : Decidable d.Valid := by unfold Valid; infer_instance

def dayNumber (d : Date) : Nat :=
  daysBeforeYear d.year + daysBeforeMonth (isLeapYear d.year) d.month + (d.day - 1)

def yearUpTo (n : Nat) : Nat → Nat
  | 0 => 1
  | y + 1 => if daysBeforeYear (y + 1) ≤ n then y + 1 else yearUpTo n y

def monthUpTo (leap : Bool) (n : Nat) : Nat → Nat
  | 0 => 1
  | m + 1 => if daysBeforeMonth leap (m + 1) ≤ n then m + 1 else monthUpTo leap n m

/-- The date of a day number. No year is shorter than 365 days, so the search starts late enough. -/
def ofDayNumber (n : Nat) : Date :=
  let year := yearUpTo n (n / 365 + 1)
  let leap := isLeapYear year
  let within := n - daysBeforeYear year
  let month := monthUpTo leap within 12
  ⟨year, month, within - daysBeforeMonth leap month + 1⟩

end Date

end BearerAccess
