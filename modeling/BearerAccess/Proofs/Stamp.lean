import BearerAccess.Proofs.Universal
import BearerAccess.Time.Stamp
import Mathlib.Data.String.Basic

/-!
# Stamps and instants

Universal times follow one another as the texts under which the database keeps them, and can be read
back from these texts.
-/

namespace BearerAccess

/-! ### Digits -/

def digit (k : Nat) : Char := Char.ofNat (0x30 + k)

lemma digit_read {k : Nat} (hk : k < 10) : (digit k).isDigit = true ∧ (digit k).toNat - 0x30 = k := by
  have hall : ∀ k < 10, (digit k).isDigit = true ∧ (digit k).toNat - 0x30 = k := by decide
  exact hall k hk

lemma decimalPadded_succ (width n : Nat) :
    decimalPadded (width + 1) n = decimalPadded width (n / 10) ++ [digit (n % 10)] := rfl

lemma decimal_positional : Positional 10 digit decimalPadded where
  base_pos := by decide
  digit_lt_iff := by decide
  write_zero _ := rfl
  write_succ := decimalPadded_succ

/-! ### The order of times -/

namespace DateTime

variable {a b d : DateTime}

lemma parts_lt (h : d.Valid) : d.year < 10 ^ 4 ∧ d.month < 10 ^ 2 ∧ d.day < 10 ^ 2 ∧
    d.hour < 10 ^ 2 ∧ d.minute < 10 ^ 2 ∧ d.second < 10 ^ 2 ∧ d.microsecond < 10 ^ 6 := by
  obtain ⟨⟨-, hy, -, hmo, -, hd⟩, hh, hm, hs, hu, -⟩ := h
  have hlength := daysInMonth_le (isLeapYear d.date.year) d.date.month
  have hday : d.date.day = d.day := rfl
  have hyear : d.date.year = d.year := rfl
  have hmonth : d.date.month = d.month := rfl
  refine ⟨?_, ?_, ?_, ?_, ?_, ?_, ?_⟩ <;> omega

lemma toList_ofDateTime (d : DateTime) : (Stamp.ofDateTime d).text.toList =
    decimalPadded 4 d.year ++ '-' :: (decimalPadded 2 d.month ++ '-' :: (decimalPadded 2 d.day ++
      ' ' :: (decimalPadded 2 d.hour ++ ':' :: (decimalPadded 2 d.minute ++
        ':' :: (decimalPadded 2 d.second ++ '.' :: decimalPadded 6 d.microsecond))))) := by
  rw [Stamp.ofDateTime, String.toList_ofList, dateText, timeText]
  simp only [List.append_assoc, List.cons_append]

/-- The texts of times follow one another by the parts of the times, from the year down to the
microsecond. -/
lemma text_lt_iff (ha : a.Valid) (hb : b.Valid) :
    (Stamp.ofDateTime a).text < (Stamp.ofDateTime b).text ↔
      a.date.Before b.date ∨ a.date = b.date ∧ a.timeOfDay < b.timeOfDay := by
  rw [timeOfDay_lt_iff ha hb, String.lt_iff_toList_lt, toList_ofDateTime, toList_ofDateTime]
  obtain ⟨hy, hmo, hd, hh, hm, hs, hu⟩ := parts_lt ha
  obtain ⟨hy', hmo', hd', hh', hm', hs', hu'⟩ := parts_lt hb
  have hdecimal := @decimal_positional.append_lt_iff
  rw [hdecimal hy hy', mark_lt_iff, hdecimal hmo hmo', mark_lt_iff, hdecimal hd hd', mark_lt_iff,
    hdecimal hh hh', mark_lt_iff, hdecimal hm hm', mark_lt_iff, hdecimal hs hs', mark_lt_iff,
    decimal_positional.lt_iff hu hu']
  simp only [Date.Before, date, Date.mk.injEq]
  tauto

/-- Universal times follow one another as their texts do. -/
lemma isAfter_iff (ha : a.Valid) (hb : b.Valid) :
    (Stamp.ofDateTime a).isAfter (Stamp.ofDateTime b) = true ↔ b.wallClock < a.wallClock := by
  rw [Stamp.isAfter, decide_eq_true_iff, text_lt_iff hb ha, wallClock_lt_iff hb ha]

end DateTime

/-! ### Times read back -/

namespace Stamp

lemma readDigits_succ (width n : Nat) (cs : List Char) : readDigits (width + 1) n cs =
    (readDigits width n cs).bind fun (m, rest) => readDigits 1 m rest := by
  induction width generalizing n cs with
  | zero => rfl
  | succ width ih =>
    cases cs with
    | nil => rfl
    | cons c cs =>
      rw [readDigits, readDigits]
      by_cases hc : c.isDigit = true
      · rw [if_pos hc, if_pos hc, ih]
      · rw [if_neg hc, if_neg hc]
        rfl

lemma readDigits_decimalPadded {width n : Nat} (hn : n < 10 ^ width) (rest : List Char) :
    readDigits width 0 (decimalPadded width n ++ rest) = some (n, rest) := by
  induction width generalizing n rest with
  | zero =>
    rw [Nat.pow_zero, Nat.lt_one_iff] at hn
    rw [hn]
    rfl
  | succ width ih =>
    obtain ⟨hdigit, hvalue⟩ := digit_read (Nat.mod_lt n (by omega))
    have hone : readDigits 1 (n / 10) (digit (n % 10) :: rest) = some (n, rest) := by
      rw [readDigits, if_pos hdigit, hvalue, Nat.div_add_mod]
      rfl
    rw [readDigits_succ, decimalPadded_succ, List.append_assoc, ih (div_lt_pow hn)]
    exact hone

lemma readMark_cons (mark : Char) (cs : List Char) : readMark mark (mark :: cs) = some cs :=
  if_pos rfl

/-- The text of a time is read back as the time that its clock shows. -/
lemma toDateTime?_ofDateTime {d : DateTime} (h : d.Valid) :
    (ofDateTime d).toDateTime? = some { d with offset := none } := by
  obtain ⟨hy, hmo, hd, hh, hm, hs, hu⟩ := DateTime.parts_lt h
  have hlast := readDigits_decimalPadded hu []
  rw [List.append_nil] at hlast
  rw [toDateTime?, DateTime.toList_ofDateTime, readDigits_decimalPadded hy]
  simp only [bind, Option.bind, readMark_cons, readDigits_decimalPadded hmo,
    readDigits_decimalPadded hd, readDigits_decimalPadded hh, readDigits_decimalPadded hm,
    readDigits_decimalPadded hs, hlast]
  rfl

end Stamp

/-! ### Stored times -/

namespace DateTime

variable {d u : DateTime}

/-- A time is later than another as its stored text is greater. -/
lemma Universal.isAfter_iff (hd : d.Universal) (hu : u.Universal) :
    (Stamp.ofDateTime d).isAfter (Stamp.ofDateTime u) = true ↔ u.instant < d.instant := by
  rw [DateTime.isAfter_iff hd.valid hu.valid, hd.instant_eq, hu.instant_eq, Int.ofNat_lt]

end DateTime

namespace Stamp

/-- Stamps that are written for a universal time. -/
def Sound (s : Stamp) : Prop := ∃ u : DateTime, u.Universal ∧ s = ofDateTime u

end Stamp

/-- A token may be used at an instant: it has no expiry, or one after this instant. -/
def Token.LiveAt (k : Token) (instant : Int) : Prop := ∀ e ∈ k.expiresAt, instant < e.instant

/-- A stored token may be used at the instant of a universal time just if its expiry is greater than
this time as it would be stored. -/
lemma TokenRow.liveAt_iff {k : TokenRow} (hexpiry : ∀ e ∈ k.expiresAt, e.Sound) {u : DateTime}
    (hu : u.Universal) :
    k.toToken.LiveAt u.instant ↔ k.expiresAt.all (·.isAfter (.ofDateTime u)) = true := by
  cases hk : k.expiresAt with
  | none => simp [Token.LiveAt, toToken, hk]
  | some e =>
    obtain ⟨v, hv, rfl⟩ := hexpiry e hk
    have hread : k.toToken.expiresAt = some { v with offset := none } := by
      rw [toToken, hk, Option.bind_some, Stamp.toDateTime?_ofDateTime hv.valid]
    have hinstant : ({ v with offset := none } : DateTime).instant = v.instant := by
      rw [DateTime.instant, DateTime.instant, hv.offset]
      rfl
    rw [Token.LiveAt, hread, Option.all_some, hv.isAfter_iff hu]
    simp [hinstant]

end BearerAccess
