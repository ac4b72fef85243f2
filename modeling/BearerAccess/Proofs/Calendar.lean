import BearerAccess.Time.DateTime
import Mathlib.Data.Nat.Init
import Mathlib.Logic.Function.Iterate
import Mathlib.Tactic.Common

/-!
# Counting days

The dates of the calendar follow one another as their day numbers do, and every day number up to the
end of year 9999 is that of a date: the one that is reached from the first day of the calendar when so
many days are counted, one after the other.
-/

namespace BearerAccess

/-! ### Years -/

def yearLength (y : Nat) : Nat := if isLeapYear y then 366 else 365

lemma daysBeforeYear_succ {y : Nat} (hy : 1 ≤ y) :
    daysBeforeYear (y + 1) = daysBeforeYear y + yearLength y := by
  obtain ⟨n, rfl⟩ := Nat.exists_eq_add_of_le' hy
  have hquarters : n / 100 ≤ n / 4 := Nat.div_le_div_left (by omega) (by omega)
  unfold daysBeforeYear yearLength isLeapYear
  rw [Nat.add_sub_cancel, Nat.add_sub_cancel, Nat.succ_div, Nat.succ_div, Nat.succ_div]
  simp only [Nat.dvd_iff_mod_eq_zero]
  by_cases h400 : (n + 1) % 400 = 0
  · have h100 : (n + 1) % 100 = 0 := by omega
    have h4 : (n + 1) % 4 = 0 := by omega
    simp [h400, h100, h4]
    omega
  · by_cases h100 : (n + 1) % 100 = 0
    · have h4 : (n + 1) % 4 = 0 := by omega
      simp [h400, h100, h4]
      omega
    · by_cases h4 : (n + 1) % 4 = 0
      · simp [h400, h100, h4]
        omega
      · simp [h400, h100, h4]
        omega

lemma daysBeforeYear_mono {y z : Nat} (hy : 1 ≤ y) (h : y ≤ z) :
    daysBeforeYear y ≤ daysBeforeYear z := by
  induction z, h using Nat.le_induction with
  | base => exact Nat.le_refl _
  | succ z hz ih =>
    rw [daysBeforeYear_succ (Nat.le_trans hy hz)]
    omega

/-! ### Months -/

lemma daysBeforeMonth_succ (leap : Bool) {m : Nat} (hm : 1 ≤ m) :
    daysBeforeMonth leap (m + 1) = daysBeforeMonth leap m + daysInMonth leap m := by
  cases m with
  | zero => omega
  | succ m => rfl

lemma daysBeforeMonth_mono (leap : Bool) {m k : Nat} (hm : 1 ≤ m) (h : m ≤ k) :
    daysBeforeMonth leap m ≤ daysBeforeMonth leap k := by
  induction k, h using Nat.le_induction with
  | base => exact Nat.le_refl _
  | succ k hk ih =>
    rw [daysBeforeMonth_succ leap (Nat.le_trans hm hk)]
    omega

lemma daysInMonth_le (leap : Bool) (m : Nat) : daysInMonth leap m ≤ 31 := by
  unfold daysInMonth
  split
  · split <;> omega
  · omega
  · omega
  · omega
  · omega
  · exact Nat.le_refl _

lemma one_le_daysInMonth (leap : Bool) (m : Nat) : 1 ≤ daysInMonth leap m := by
  unfold daysInMonth
  split
  · split <;> omega
  all_goals omega

lemma daysBeforeMonth_end (y : Nat) : daysBeforeMonth (isLeapYear y) 13 = yearLength y := by
  unfold yearLength
  cases isLeapYear y <;> rfl

namespace Date

def dayOfYear (d : Date) : Nat := daysBeforeMonth (isLeapYear d.year) d.month + (d.day - 1)

lemma dayNumber_eq (d : Date) : d.dayNumber = daysBeforeYear d.year + d.dayOfYear := by
  rw [dayNumber, dayOfYear, Nat.add_assoc]

lemma dayOfYear_lt {d : Date} (h : d.Valid) :
    d.dayOfYear < daysBeforeMonth (isLeapYear d.year) (d.month + 1) := by
  obtain ⟨-, -, hm, -, hd, hd'⟩ := h
  rw [daysBeforeMonth_succ _ hm, dayOfYear]
  omega

lemma dayOfYear_lt_yearLength {d : Date} (h : d.Valid) : d.dayOfYear < yearLength d.year := by
  have hlt := dayOfYear_lt h
  have hmono := daysBeforeMonth_mono (isLeapYear d.year) (by omega : 1 ≤ d.month + 1)
    (by have := h.2.2.2.1; omega : d.month + 1 ≤ 13)
  rw [daysBeforeMonth_end] at hmono
  omega

/-- A date comes before another, by the year, the month and the day. -/
def Before (a b : Date) : Prop :=
  a.year < b.year ∨ a.year = b.year ∧ (a.month < b.month ∨ a.month = b.month ∧ a.day < b.day)

lemma before_or_eq (a b : Date) : a.Before b ∨ a = b ∨ b.Before a := by
  obtain hy | hy | hy := Nat.lt_trichotomy a.year b.year
  · exact Or.inl (Or.inl hy)
  · obtain hm | hm | hm := Nat.lt_trichotomy a.month b.month
    · exact Or.inl (Or.inr ⟨hy, Or.inl hm⟩)
    · obtain hd | hd | hd := Nat.lt_trichotomy a.day b.day
      · exact Or.inl (Or.inr ⟨hy, Or.inr ⟨hm, hd⟩⟩)
      · cases a
        cases b
        cases hy
        cases hm
        cases hd
        exact Or.inr (Or.inl rfl)
      · exact Or.inr (Or.inr (Or.inr ⟨hy.symm, Or.inr ⟨hm.symm, hd⟩⟩))
    · exact Or.inr (Or.inr (Or.inr ⟨hy.symm, Or.inl hm⟩))
  · exact Or.inr (Or.inr (Or.inl hy))

lemma dayNumber_lt_of_before {a b : Date} (ha : a.Valid) (h : a.Before b) :
    a.dayNumber < b.dayNumber := by
  rw [dayNumber_eq, dayNumber_eq]
  obtain hy | ⟨hy, hm | ⟨hm, hd⟩⟩ := h
  · have hlt := dayOfYear_lt_yearLength ha
    have hmono := daysBeforeYear_mono (by omega : 1 ≤ a.year + 1) (by omega : a.year + 1 ≤ b.year)
    rw [daysBeforeYear_succ ha.1] at hmono
    omega
  · have hlt := dayOfYear_lt ha
    have hmono := daysBeforeMonth_mono (isLeapYear a.year) (by omega : 1 ≤ a.month + 1)
      (by omega : a.month + 1 ≤ b.month)
    have hb' : daysBeforeMonth (isLeapYear a.year) b.month ≤ b.dayOfYear := by
      rw [hy, dayOfYear]
      omega
    rw [hy]
    omega
  · have hda : 1 ≤ a.day := ha.2.2.2.2.1
    rw [dayOfYear, dayOfYear, hy, hm]
    omega

/-- Dates follow one another as their day numbers do. -/
lemma dayNumber_lt_iff {a b : Date} (ha : a.Valid) (hb : b.Valid) :
    a.dayNumber < b.dayNumber ↔ a.Before b := by
  refine ⟨fun h => ?_, dayNumber_lt_of_before ha⟩
  obtain hab | rfl | hba := before_or_eq a b
  · exact hab
  · exact absurd h (Nat.lt_irrefl _)
  · have := dayNumber_lt_of_before hb hba
    omega

lemma dayNumber_inj {a b : Date} (ha : a.Valid) (hb : b.Valid) (h : a.dayNumber = b.dayNumber) :
    a = b := by
  obtain hab | hab | hba := before_or_eq a b
  · have := dayNumber_lt_of_before ha hab
    omega
  · exact hab
  · have := dayNumber_lt_of_before hb hba
    omega

/-! ### The date of a day number -/

lemma yearUpTo_spec (n k : Nat) : 1 ≤ yearUpTo n k ∧ daysBeforeYear (yearUpTo n k) ≤ n ∧
    ∀ y, yearUpTo n k < y → y ≤ k → n < daysBeforeYear y := by
  induction k with
  | zero =>
    have hfirst : daysBeforeYear (yearUpTo n 0) = 0 := by simp [yearUpTo, daysBeforeYear]
    exact ⟨Nat.le_refl _, by omega, fun y hy hk => by omega⟩
  | succ k ih =>
    unfold yearUpTo
    by_cases hn : daysBeforeYear (k + 1) ≤ n
    · rw [if_pos hn]
      exact ⟨by omega, hn, fun y hy hk => by omega⟩
    · rw [if_neg hn]
      refine ⟨ih.1, ih.2.1, fun y hy hk => ?_⟩
      by_cases hlast : y = k + 1
      · rw [hlast]
        omega
      · exact ih.2.2 y hy (by omega)

lemma monthUpTo_spec (leap : Bool) (n k : Nat) (hk : 1 ≤ k) :
    1 ≤ monthUpTo leap n k ∧ monthUpTo leap n k ≤ k ∧ daysBeforeMonth leap (monthUpTo leap n k) ≤ n ∧
      ∀ m, monthUpTo leap n k < m → m ≤ k → n < daysBeforeMonth leap m := by
  induction k, hk using Nat.le_induction with
  | base =>
    have h : monthUpTo leap n 1 = 1 := by
      unfold monthUpTo
      split <;> rfl
    rw [h]
    exact ⟨Nat.le_refl _, Nat.le_refl _, Nat.zero_le n, fun m hm hk => by omega⟩
  | succ k hk ih =>
    unfold monthUpTo
    by_cases hn : daysBeforeMonth leap (k + 1) ≤ n
    · rw [if_pos hn]
      exact ⟨by omega, Nat.le_refl _, hn, fun m hm hk => by omega⟩
    · rw [if_neg hn]
      refine ⟨ih.1, by omega, ih.2.2.1, fun m hm hk' => ?_⟩
      by_cases hlast : m = k + 1
      · rw [hlast]
        omega
      · exact ih.2.2.2 m hm (by omega)

/-- Every day number up to the end of year 9999 is that of a date. -/
lemma ofDayNumber_spec {n : Nat} (hn : n < 3652059) :
    (ofDayNumber n).Valid ∧ (ofDayNumber n).dayNumber = n := by
  obtain ⟨hy, hstart, hnext⟩ := yearUpTo_spec n (n / 365 + 1)
  generalize hyear : yearUpTo n (n / 365 + 1) = year at hy hstart hnext
  -- The search starts at a year that begins after day n, for no year has less than 365 days.
  have hlate : n < daysBeforeYear (year + 1) := by
    by_cases hle : year + 1 ≤ n / 365 + 1
    · exact hnext (year + 1) (by omega) hle
    · have hfar : 365 * year ≤ daysBeforeYear (year + 1) := by
        unfold daysBeforeYear
        omega
      omega
  have hbound : year ≤ 9999 := by
    by_contra hgt
    have hmono := daysBeforeYear_mono (by omega : 1 ≤ 10000) (by omega : 10000 ≤ year)
    have hend : daysBeforeYear 10000 = 3652059 := by decide
    omega
  rw [daysBeforeYear_succ hy] at hlate
  generalize hwithin : n - daysBeforeYear year = within
  have hlength : within < yearLength year := by omega
  obtain ⟨hm, hm', hmonth, hmonthNext⟩ := monthUpTo_spec (isLeapYear year) within 12 (by omega)
  have hdate : ofDayNumber n = ⟨year, monthUpTo (isLeapYear year) within 12,
      within - daysBeforeMonth (isLeapYear year) (monthUpTo (isLeapYear year) within 12) + 1⟩ := by
    rw [← hwithin, ← hyear]
    rfl
  rw [hdate]
  generalize monthUpTo (isLeapYear year) within 12 = month at hm hm' hmonth hmonthNext
  have hday : within < daysBeforeMonth (isLeapYear year) (month + 1) := by
    by_cases hlast : month = 12
    · rw [hlast, daysBeforeMonth_end]
      exact hlength
    · exact hmonthNext (month + 1) (by omega) (by omega)
  rw [daysBeforeMonth_succ _ hm] at hday
  refine ⟨⟨hy, hbound, hm, hm', by dsimp only; omega, by dsimp only; omega⟩, ?_⟩
  rw [dayNumber]
  dsimp only
  omega

/-! ### Day by day -/

/-- The first day of the calendar. -/
def first : Date := ⟨1, 1, 1⟩

/-- The day after a date: the next one of the month, or else the first of the next month, or else the
first of the next year. -/
def next (d : Date) : Date :=
  if d.day < daysInMonth (isLeapYear d.year) d.month then ⟨d.year, d.month, d.day + 1⟩
  else if d.month < 12 then ⟨d.year, d.month + 1, 1⟩
  else ⟨d.year + 1, 1, 1⟩

lemma dayNumber_lt {d : Date} (h : d.Valid) : d.dayNumber < 3652059 := by
  have hlt := dayOfYear_lt_yearLength h
  have hmono := daysBeforeYear_mono (by omega : 1 ≤ d.year + 1)
    (by have := h.2.1; omega : d.year + 1 ≤ 10000)
  have hend : daysBeforeYear 10000 = 3652059 := by decide
  rw [daysBeforeYear_succ h.1, hend] at hmono
  rw [dayNumber_eq]
  omega

/-- The day after a date is counted next. After the last day of year 9999 there is none. -/
lemma next_spec {d : Date} (h : d.Valid) (hnext : d.dayNumber + 1 < 3652059) :
    d.next.Valid ∧ d.next.dayNumber = d.dayNumber + 1 := by
  obtain ⟨hy, hy', hm, hm', hd, hd'⟩ := h
  have hnumber := dayNumber_eq d
  rw [dayOfYear] at hnumber
  unfold next
  split
  · rename_i hday
    refine ⟨⟨hy, hy', hm, hm', by dsimp only; omega, by dsimp only; omega⟩, ?_⟩
    rw [hnumber, dayNumber]
    dsimp only
    omega
  rename_i hday
  have hmonth := daysBeforeMonth_succ (isLeapYear d.year) hm
  split
  · rename_i hmonths
    refine ⟨⟨hy, hy', by dsimp only; omega, hmonths, Nat.le_refl _, one_le_daysInMonth _ _⟩, ?_⟩
    rw [hnumber, dayNumber]
    dsimp only
    omega
  · rename_i hmonths
    have hyear := daysBeforeYear_succ hy
    have hlast : d.month = 12 := by omega
    rw [hlast, daysBeforeMonth_end] at hmonth
    rw [hlast] at hnumber hday hd'
    have hcount : daysBeforeYear (d.year + 1) = d.dayNumber + 1 := by omega
    have hbound : d.year + 1 ≤ 9999 := by
      by_contra hgt
      have hyears : d.year + 1 = 10000 := by omega
      rw [hyears, show daysBeforeYear 10000 = 3652059 by decide] at hcount
      omega
    refine ⟨⟨by dsimp only; omega, hbound, Nat.le_refl _, by dsimp only; omega, Nat.le_refl _,
      one_le_daysInMonth _ _⟩, ?_⟩
    rw [← hcount]
    rfl

/-- So many days after the first day of the calendar is the date of a day number. -/
lemma iterate_next {n : Nat} (hn : n < 3652059) :
    (next^[n] first).Valid ∧ (next^[n] first).dayNumber = n := by
  induction n with
  | zero => exact ⟨by decide, rfl⟩
  | succ n ih =>
    obtain ⟨hvalid, hnumber⟩ := ih (by omega)
    obtain ⟨hvalid', hnumber'⟩ := next_spec hvalid (by omega)
    rw [Function.iterate_succ_apply']
    exact ⟨hvalid', by rw [hnumber', hnumber]⟩

/-- The day number of a date counts the days from the first day of the calendar. -/
lemma iterate_next_dayNumber {d : Date} (h : d.Valid) : next^[d.dayNumber] first = d := by
  obtain ⟨hvalid, hnumber⟩ := iterate_next (dayNumber_lt h)
  exact dayNumber_inj hvalid h hnumber

end Date

end BearerAccess
