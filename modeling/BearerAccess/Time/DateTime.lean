import BearerAccess.Time.Calendar

/-!
# Dates with a time of day

A date with a time of day may carry an offset to universal time; without one it is universal time.
Times are normalized to universal time on the line of microseconds from the beginning of year 1.
-/

namespace BearerAccess

/-- A date and a time of day, with an offset in microseconds that its clock is ahead of universal
time, or without one. -/
structure DateTime where
  year : Nat
  month : Nat
  day : Nat
  hour : Nat
  minute : Nat
  second : Nat
  microsecond : Nat
  offset : Option Int
  deriving DecidableEq, Repr

namespace DateTime

def date (d : DateTime) : Date := ⟨d.year, d.month, d.day⟩

def dayLength : Nat := 86400000000

def horizon : Nat := 3652059 * dayLength

def timeOfDay (d : DateTime) : Nat :=
  ((d.hour * 60 + d.minute) * 60 + d.second) * 1000000 + d.microsecond

/-- Dates of the calendar with a time of day, and an offset of less than a day. -/
def Valid (d : DateTime) : Prop :=
  d.date.Valid ∧ d.hour < 24 ∧ d.minute < 60 ∧ d.second < 60 ∧ d.microsecond < 1000000 ∧
    ∀ o ∈ d.offset, -(dayLength : Int) < o ∧ o < dayLength

instance (d : DateTime) : Decidable d.Valid :=
  decidable_of_iff (d.date.Valid ∧ d.hour < 24 ∧ d.minute < 60 ∧ d.second < 60 ∧
      d.microsecond < 1000000 ∧
      d.offset.all (fun o => -(dayLength : Int) < o ∧ o < dayLength) = true) <| by
    simp only [Valid, Option.all_eq_true, Option.mem_def, decide_eq_true_eq]

def wallClock (d : DateTime) : Nat := d.date.dayNumber * dayLength + d.timeOfDay

/-- The instant that is meant, in microseconds of universal time from the beginning of year 1. -/
def instant (d : DateTime) : Int := (d.wallClock : Int) - d.offset.getD 0

def ofMicroseconds (n : Nat) : DateTime :=
  let date := Date.ofDayNumber (n / dayLength)
  let t := n % dayLength
  let s := t / 1000000
  { year := date.year
    month := date.month
    day := date.day
    hour := s / 3600
    minute := s / 60 % 60
    second := s % 60
    microsecond := t % 1000000
    offset := some 0 }

def ofInstant? (i : Int) : Option DateTime :=
  if 0 ≤ i ∧ i < horizon then some (ofMicroseconds i.toNat) else none

/-- The same instant at offset zero. A time without offset is universal time already; a time whose
instant lies outside the years 1 to 9999 has none. -/
def toUniversal? (d : DateTime) : Option DateTime :=
  match d.offset with
  | none => some { d with offset := some 0 }
  | some _ => ofInstant? d.instant

def epoch : Int := 719162 * dayLength

/-- The universal time of a clock that counts milliseconds from the beginning of 1970. -/
def ofClock? (milliseconds : Int) : Option DateTime := ofInstant? (epoch + milliseconds * 1000)

end DateTime

end BearerAccess
