import BearerAccess.Moment
import BearerAccess.Proofs.Calendar
import BearerAccess.Proofs.Numerals

/-!
# Universal time

A time of the calendar is converted to the one time at offset zero that has the same instant. There is
such a time just if the instant lies within the years 1 to 9999. Converted times are in the order of
their instants, from the year down to the microsecond.
-/

namespace BearerAccess

namespace DateTime

variable {a b d u v : DateTime} {i : Int}

/-! ### The order of times -/

lemma timeOfDay_lt_iff (ha : a.Valid) (hb : b.Valid) : a.timeOfDay < b.timeOfDay ↔
    a.hour < b.hour ∨ a.hour = b.hour ∧ (a.minute < b.minute ∨ a.minute = b.minute ∧
      (a.second < b.second ∨ a.second = b.second ∧ a.microsecond < b.microsecond)) := by
  obtain ⟨-, -, hm, hs, hu, -⟩ := ha
  obtain ⟨-, -, hm', hs', hu', -⟩ := hb
  rw [timeOfDay, timeOfDay, mul_add_lt_iff hu hu', mul_add_lt_iff hs hs', mul_add_lt_iff hm hm']
  omega

lemma timeOfDay_lt_dayLength (h : d.Valid) : d.timeOfDay < dayLength := by
  obtain ⟨-, hh, hm, hs, hu, -⟩ := h
  rw [timeOfDay, dayLength]
  omega

lemma wallClock_lt_iff (ha : a.Valid) (hb : b.Valid) : a.wallClock < b.wallClock ↔
    a.date.Before b.date ∨ a.date = b.date ∧ a.timeOfDay < b.timeOfDay := by
  have heq : a.date.dayNumber = b.date.dayNumber ↔ a.date = b.date :=
    ⟨Date.dayNumber_inj ha.1 hb.1, fun h => by rw [h]⟩
  rw [wallClock, wallClock, mul_add_lt_iff (timeOfDay_lt_dayLength ha) (timeOfDay_lt_dayLength hb),
    Date.dayNumber_lt_iff ha.1 hb.1, heq]

/-! ### Universal times -/

/-- A time of the calendar at offset zero. -/
structure Universal (d : DateTime) : Prop where
  valid : d.Valid
  offset : d.offset = some 0

lemma Universal.instant_eq (h : d.Universal) : d.instant = d.wallClock := by
  rw [instant, h.offset, Option.getD_some, Int.sub_zero]

lemma timeOfDay_parts (t : Nat) : ((t / 1000000 / 3600 * 60 + t / 1000000 / 60 % 60) * 60 +
    t / 1000000 % 60) * 1000000 + t % 1000000 = t := by
  omega

lemma ofMicroseconds_spec {n : Nat} (hn : n < horizon) :
    (ofMicroseconds n).Universal ∧ (ofMicroseconds n).wallClock = n := by
  have hday : n / dayLength < 3652059 := Nat.div_lt_of_lt_mul (by rw [Nat.mul_comm]; exact hn)
  obtain ⟨hdate, hnumber⟩ := Date.ofDayNumber_spec hday
  have ht : n % dayLength < 1000000 * 3600 * 24 := Nat.mod_lt _ (by decide)
  have hhour : n % dayLength / 1000000 / 3600 < 24 :=
    Nat.div_lt_of_lt_mul (Nat.div_lt_of_lt_mul (by rwa [← Nat.mul_assoc]))
  refine ⟨⟨⟨hdate, hhour, Nat.mod_lt _ (by decide), Nat.mod_lt _ (by decide),
    Nat.mod_lt _ (by decide), fun o ho => ?_⟩, rfl⟩, ?_⟩
  · cases ho
    decide
  · have htime : (ofMicroseconds n).timeOfDay = n % dayLength := timeOfDay_parts _
    have hdate' : (ofMicroseconds n).date = Date.ofDayNumber (n / dayLength) := rfl
    rw [wallClock, htime, hdate', hnumber, Nat.mul_comm]
    exact Nat.div_add_mod _ _

/-- The universal time of an instant shows this instant. -/
lemma ofInstant?_spec {i : Int} (h : ofInstant? i = some u) : u.Universal ∧ u.instant = i := by
  unfold ofInstant? at h
  by_cases hi : 0 ≤ i ∧ i < horizon
  · rw [if_pos hi, Option.some.injEq] at h
    obtain ⟨huniversal, hclock⟩ := ofMicroseconds_spec (by omega : i.toNat < horizon)
    rw [h] at huniversal hclock
    refine ⟨huniversal, ?_⟩
    rw [huniversal.instant_eq, hclock]
    omega
  · rw [if_neg hi] at h
    cases h

/-- A time keeps its instant when it is converted to universal time. -/
lemma toUniversal?_spec (hd : d.Valid) (h : d.toUniversal? = some u) :
    u.Universal ∧ u.instant = d.instant := by
  unfold toUniversal? at h
  cases hoffset : d.offset with
  | none =>
    rw [hoffset] at h
    cases h
    obtain ⟨hdate, hh, hm, hs, hu, -⟩ := hd
    refine ⟨⟨⟨hdate, hh, hm, hs, hu, fun o ho => ?_⟩, rfl⟩, ?_⟩
    · cases ho
      decide
    · rw [instant, instant, hoffset]
      rfl
  | some o =>
    rw [hoffset] at h
    exact ofInstant?_spec h

/-- Universal times of one instant are the same. -/
lemma Universal.eq_of_instant (hu : u.Universal) (hv : v.Universal) (h : u.instant = v.instant) :
    u = v := by
  rw [hu.instant_eq, hv.instant_eq, Int.ofNat_inj] at h
  have htime := timeOfDay_lt_dayLength hu.valid
  have htime' := timeOfDay_lt_dayLength hv.valid
  rw [wallClock, wallClock] at h
  have hdays : u.date.dayNumber = v.date.dayNumber := by
    have := mul_add_lt_iff (a := u.date.dayNumber) (c := v.date.dayNumber) htime htime'
    have := mul_add_lt_iff (a := v.date.dayNumber) (c := u.date.dayNumber) htime' htime
    omega
  have hdate := Date.dayNumber_inj hu.valid.1 hv.valid.1 hdays
  rw [hdays, Nat.add_left_cancel_iff] at h
  obtain ⟨-, hh, hm, hs, hf, -⟩ := hu.valid
  obtain ⟨-, hh', hm', hs', hf', -⟩ := hv.valid
  rw [timeOfDay, timeOfDay] at h
  have hparts : u.hour = v.hour ∧ u.minute = v.minute ∧ u.second = v.second ∧
      u.microsecond = v.microsecond := by
    refine ⟨?_, ?_, ?_, ?_⟩ <;> omega
  obtain ⟨rhour, rminute, rsecond, rmicro⟩ := hparts
  have hoffset := hu.offset.trans hv.offset.symm
  cases u
  cases v
  simp only [date, Date.mk.injEq] at hdate rhour rminute rsecond rmicro hoffset
  obtain ⟨ryear, rmonth, rday⟩ := hdate
  subst ryear rmonth rday rhour rminute rsecond rmicro hoffset
  rfl

/-! ### Instants that have a universal time -/

/-- The first universal time that there is. -/
def first : DateTime := ⟨1, 1, 1, 0, 0, 0, 0, some 0⟩

/-- The last universal time that there is. -/
def last : DateTime := ⟨9999, 12, 31, 23, 59, 59, 999999, some 0⟩

lemma first_instant : first.instant = 0 := by decide

lemma last_instant : last.instant + 1 = horizon := by decide

lemma wallClock_lt (h : d.Valid) : d.wallClock < horizon := by
  have hday := Date.dayNumber_lt h.1
  have htime := timeOfDay_lt_dayLength h
  rw [wallClock, horizon]
  calc d.date.dayNumber * dayLength + d.timeOfDay
      < d.date.dayNumber * dayLength + dayLength := Nat.add_lt_add_left htime _
    _ = (d.date.dayNumber + 1) * dayLength := (Nat.succ_mul _ _).symm
    _ ≤ 3652059 * dayLength := Nat.mul_le_mul_right _ hday

lemma Universal.within (h : u.Universal) : first.instant ≤ u.instant ∧ u.instant ≤ last.instant := by
  have hlt := wallClock_lt h.valid
  have hlast := last_instant
  rw [first_instant, h.instant_eq]
  omega

lemma ofInstant?_isSome (hfirst : first.instant ≤ i) (hlast : i ≤ last.instant) :
    (ofInstant? i).isSome := by
  have hend := last_instant
  rw [first_instant] at hfirst
  rw [ofInstant?, if_pos (by omega)]
  rfl

/-! ### Conversion -/

lemma toUniversal?_isSome (hfirst : first.instant ≤ d.instant) (hlast : d.instant ≤ last.instant) :
    d.toUniversal?.isSome := by
  unfold toUniversal?
  split
  · rfl
  · exact ofInstant?_isSome hfirst hlast

/-- A time is converted to the universal time of its instant, and to no other. -/
lemma toUniversal?_eq_some_iff (hd : d.Valid) :
    d.toUniversal? = some u ↔ u.Universal ∧ u.instant = d.instant := by
  refine ⟨toUniversal?_spec hd, fun ⟨hu, hinstant⟩ => ?_⟩
  obtain ⟨hfirst, hlast⟩ := hu.within
  rw [hinstant] at hfirst hlast
  obtain ⟨v, hv⟩ := Option.isSome_iff_exists.mp (toUniversal?_isSome hfirst hlast)
  obtain ⟨huniversal, hsame⟩ := toUniversal?_spec hd hv
  rw [hv, huniversal.eq_of_instant hu (hsame.trans hinstant.symm)]

/-- A time has no universal time just if its instant lies outside the years 1 to 9999. -/
lemma toUniversal?_eq_none_iff (hd : d.Valid) :
    d.toUniversal? = none ↔ d.instant < first.instant ∨ last.instant < d.instant := by
  rw [← Option.not_isSome_iff_eq_none]
  refine ⟨fun h => ?_, fun h hsome => ?_⟩
  · by_contra hwithin
    exact h (toUniversal?_isSome (by omega) (by omega))
  · obtain ⟨u, hu⟩ := Option.isSome_iff_exists.mp hsome
    obtain ⟨huniversal, hinstant⟩ := toUniversal?_spec hd hu
    have hwithin := huniversal.within
    omega

lemma universal_eq_ok_iff (hd : d.Valid) :
    d.universal = .ok u ↔ u.Universal ∧ u.instant = d.instant := by
  rw [← toUniversal?_eq_some_iff hd, universal]
  cases d.toUniversal? <;> simp

lemma universal_eq_error_iff (hd : d.Valid) {f : Failure} : d.universal = .error f ↔
    f = Cause.range .date ∧ (d.instant < first.instant ∨ last.instant < d.instant) := by
  rw [← toUniversal?_eq_none_iff hd, universal]
  cases d.toUniversal? <;> simp [eq_comm]

/-! ### The order of universal times -/

/-- What calendar and clock show, from the year down to the microsecond. -/
def reading (d : DateTime) : List Nat :=
  [d.year, d.month, d.day, d.hour, d.minute, d.second, d.microsecond]

lemma reading_lt_iff (ha : a.Valid) (hb : b.Valid) :
    a.reading < b.reading ↔ a.wallClock < b.wallClock := by
  rw [wallClock_lt_iff ha hb, timeOfDay_lt_iff ha hb]
  simp only [reading, List.cons_lt_cons_iff, List.not_lt_nil, and_false, or_false, Date.Before, date,
    Date.mk.injEq]
  tauto

/-- The days of the calendar are counted one after the other, from the first of year 1. A time is
converted to the universal time of its instant, which is the only one, and it is refused just if its
instant lies before the first or after the last microsecond of the years 1 to 9999. To convert once more
changes nothing. Converted times are in the order of their instants, and are the same just if the
instants are. -/
theorem universal_keeps_instant :
    (∀ c : Date, c.Valid → Date.next^[c.dayNumber] Date.first = c) ∧
      (∀ d : DateTime, d.Valid →
        (∀ u, d.universal = .ok u ↔ u.Universal ∧ u.instant = d.instant) ∧
        (∀ f, d.universal = .error f ↔
          f = Cause.range .date ∧ (d.instant < first.instant ∨ last.instant < d.instant)) ∧
        d.universal.bind universal = d.universal) ∧
      ∀ a b u v : DateTime, a.Valid → b.Valid → a.universal = .ok u → b.universal = .ok v →
        (u.reading < v.reading ↔ a.instant < b.instant) ∧ (u = v ↔ a.instant = b.instant) := by
  refine ⟨fun c => Date.iterate_next_dayNumber, fun d hd => ⟨fun u => universal_eq_ok_iff hd,
    fun f => universal_eq_error_iff hd, ?_⟩, fun a b u v ha hb hu hv => ?_⟩
  · cases hconverted : d.universal with
    | error f => rfl
    | ok u =>
      have huniversal := ((universal_eq_ok_iff hd).mp hconverted).1
      exact (universal_eq_ok_iff huniversal.valid).mpr ⟨huniversal, rfl⟩
  · obtain ⟨hu, hau⟩ := (universal_eq_ok_iff ha).mp hu
    obtain ⟨hv, hbv⟩ := (universal_eq_ok_iff hb).mp hv
    rw [← hau, ← hbv]
    refine ⟨?_, fun h => by rw [h], hu.eq_of_instant hv⟩
    rw [reading_lt_iff hu.valid hv.valid, hu.instant_eq, hv.instant_eq, Int.ofNat_lt]

/-- Half an hour after midnight, an hour ahead of universal time, the first of March is still the last
of February, which is the 29th in 2000 and the 28th in 1900. A microsecond ahead of universal time, the
first midnight of the calendar has no universal time. -/
theorem universal_keeps_instant_february :
    let d : DateTime := ⟨1900, 3, 1, 0, 30, 0, 0, some 3600000000⟩
    let e : DateTime := ⟨2000, 3, 1, 0, 30, 0, 0, some 3600000000⟩
    let early : DateTime := ⟨1, 1, 1, 0, 0, 0, 0, some 1⟩
    let u : DateTime := ⟨1900, 2, 28, 23, 30, 0, 0, some 0⟩
    let v : DateTime := ⟨2000, 2, 29, 23, 30, 0, 0, some 0⟩
    d.Valid ∧ e.Valid ∧ early.Valid ∧ d.universal = .ok u ∧ e.universal = .ok v ∧
      early.universal = .error (Cause.range .date) ∧ u.reading < v.reading ∧
      Date.next^[e.date.dayNumber] Date.first = e.date := by
  intro d e early u v
  obtain ⟨hcount, hconverts, horder⟩ := universal_keeps_instant
  have hd : d.Valid := by decide
  have he : e.Valid := by decide
  have hearly : early.Valid := by decide
  have hu : d.universal = .ok u := ((hconverts d hd).1 u).mpr ⟨⟨by decide, rfl⟩, by decide⟩
  have hv : e.universal = .ok v := ((hconverts e he).1 v).mpr ⟨⟨by decide, rfl⟩, by decide⟩
  exact ⟨hd, he, hearly, hu, hv, ((hconverts early hearly).2.1 _).mpr ⟨rfl, .inl (by decide)⟩,
    (horder d e u v hd he hu hv).1.mpr (by decide), hcount e.date he.1⟩

end DateTime

end BearerAccess
