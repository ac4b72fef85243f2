import BearerAccess.Number.Binary64
import Mathlib.Algebra.Order.Field.Power
import Mathlib.Data.Rat.Floor
import Mathlib.Tactic.FieldSimp
import Mathlib.Tactic.Linarith
import Mathlib.Tactic.NormNum
import Mathlib.Tactic.Positivity

/-!
# Rounding

What a number stands for exactly, and how close to a quotient the number is to which it is rounded. The
numbers around a quotient stand on a grid of multiples of a power of two, and the rounded one is at most
half a step of this grid away. No quotient passes by a point of its grid when it is rounded.
-/

namespace BearerAccess

lemma cast_pow2 (k : Nat) : (pow2 k : ℚ) = 2 ^ k := by
  rw [pow2, Nat.pow_eq, Nat.cast_pow, Nat.cast_ofNat]

lemma zpow_parts {b : ℚ} (hb : b ≠ 0) (e : ℤ) : b ^ e * b ^ (-e).toNat = b ^ e.toNat := by
  rw [← zpow_natCast, ← zpow_natCast, ← zpow_add₀ hb]
  congr 1
  omega

lemma zpow_eq_div {b : ℚ} (hb : b ≠ 0) (e : ℤ) : b ^ e = b ^ e.toNat / b ^ (-e).toNat := by
  rw [eq_div_iff (pow_ne_zero _ hb), zpow_parts hb]

namespace Binary64

/-- What a number stands for. -/
def value? : Binary64 → Option ℚ
  | .finite negative m e => some ((if negative then -1 else 1) * m * 2 ^ e)
  | _ => none

/-! ### Quotients -/

section

variable {num den : Nat}

lemma floorLog2_spec (hnum : num ≠ 0) (hden : den ≠ 0) :
    (2 : ℚ) ^ floorLog2 num den ≤ num / den ∧ (num / den : ℚ) < 2 ^ (floorLog2 num den + 1) := by
  have hden' : (0 : ℚ) < den := by exact_mod_cast Nat.pos_of_ne_zero hden
  set k : ℤ := (num.log2 : ℤ) - den.log2 with hk
  have hnumLow : (2 : ℚ) ^ (num.log2 : ℤ) ≤ num := by exact_mod_cast Nat.log2_self_le hnum
  have hnumHigh : (num : ℚ) < 2 ^ ((num.log2 : ℤ) + 1) := by
    exact_mod_cast (Nat.lt_log2_self : num < 2 ^ (num.log2 + 1))
  have hdenLow : (2 : ℚ) ^ (den.log2 : ℤ) ≤ den := by exact_mod_cast Nat.log2_self_le hden
  have hdenHigh : (den : ℚ) < 2 ^ ((den.log2 : ℤ) + 1) := by
    exact_mod_cast (Nat.lt_log2_self : den < 2 ^ (den.log2 + 1))
  have habove : (num / den : ℚ) < 2 ^ (k + 1) := by
    rw [div_lt_iff₀ hden']
    calc (num : ℚ) < 2 ^ ((num.log2 : ℤ) + 1) := hnumHigh
      _ = 2 ^ (k + 1) * 2 ^ (den.log2 : ℤ) := by rw [← zpow_add₀ two_ne_zero]; congr 1; omega
      _ ≤ 2 ^ (k + 1) * den := mul_le_mul_of_nonneg_left hdenLow (by positivity)
  have hbelow : (2 : ℚ) ^ (k - 1) ≤ num / den := by
    rw [le_div_iff₀ hden']
    calc (2 : ℚ) ^ (k - 1) * den ≤ 2 ^ (k - 1) * 2 ^ ((den.log2 : ℤ) + 1) :=
          mul_le_mul_of_nonneg_left hdenHigh.le (by positivity)
      _ = 2 ^ (num.log2 : ℤ) := by rw [← zpow_add₀ two_ne_zero]; congr 1; omega
      _ ≤ num := hnumLow
  have htest : den * pow2 k.toNat ≤ num * pow2 (-k).toNat ↔ (2 : ℚ) ^ k ≤ num / den := by
    rw [le_div_iff₀ hden', zpow_eq_div two_ne_zero, div_mul_eq_mul_div, div_le_iff₀ (by positivity),
      ← cast_pow2, ← cast_pow2, mul_comm]
    exact_mod_cast Iff.rfl
  unfold floorLog2
  rw [← hk]
  by_cases h : den * pow2 k.toNat ≤ num * pow2 (-k).toNat
  · rw [if_pos h]
    exact ⟨htest.mp h, habove⟩
  · rw [if_neg h, sub_add_cancel]
    exact ⟨hbelow, lt_of_not_ge fun hle => h (htest.mpr hle)⟩

lemma roundQuotient_near (num : Nat) (hden : den ≠ 0) :
    |(roundQuotient num den : ℚ) - num / den| ≤ 1 / 2 := by
  have hden' : (0 : ℚ) < den := by exact_mod_cast Nat.pos_of_ne_zero hden
  have hmod : num % den < den := Nat.mod_lt _ (Nat.pos_of_ne_zero hden)
  have hparts : den * (num / den) + num % den = num := Nat.div_add_mod _ _
  have hround : 2 * num ≤ 2 * (den * roundQuotient num den) + den ∧
      2 * (den * roundQuotient num den) ≤ 2 * num + den := by
    unfold roundQuotient
    dsimp only
    split
    · omega
    · split
      · rw [Nat.mul_add]
        omega
      · have hhalf : den * (num / den % 2) ≤ den := by
          calc den * (num / den % 2) ≤ den * 1 := Nat.mul_le_mul_left _ (by omega)
            _ = den := Nat.mul_one _
        rw [Nat.mul_add]
        omega
  obtain ⟨hlow, hhigh⟩ := hround
  have hlow' : 2 * (num : ℚ) ≤ 2 * (den * roundQuotient num den) + den := by exact_mod_cast hlow
  have hhigh' : 2 * ((den : ℚ) * roundQuotient num den) ≤ 2 * num + den := by exact_mod_cast hhigh
  have hquotient : (num / den : ℚ) * den = num := div_mul_cancel₀ _ hden'.ne'
  rw [abs_le]
  constructor
  · nlinarith
  · nlinarith

end

/-! ### What a quotient is rounded to -/

/-- A positive rational is rounded to a value on the grid of multiples of a power of two: at most half a
step away, and of as many bits as there are, unless the grid is the finest. -/
structure Rounds (y v : ℚ) (e : ℤ) : Prop where
  least : -1074 ≤ e
  onGrid : ∃ m : ℕ, v = m * 2 ^ e
  near : |v - y| ≤ 2 ^ e / 2
  below : y < 2 ^ (e + 53)
  fine : e = -1074 ∨ 2 ^ (e + 52) ≤ y

namespace Rounds

variable {y v : ℚ} {e : ℤ}

/-- Rounding does not pass by a point of the grid from above. -/
lemma le_of_le (h : Rounds y v e) {k : ℤ} (hk : k * 2 ^ e ≤ y) : k * 2 ^ e ≤ v := by
  obtain ⟨m, rfl⟩ := h.onGrid
  have hstep : (0 : ℚ) < 2 ^ e := by positivity
  have hnear := (abs_le.mp h.near).1
  have hlt : (k : ℚ) < m + 1 := by
    by_contra hle
    nlinarith
  have hint : k ≤ m := by
    have : k < (m : ℤ) + 1 := by exact_mod_cast hlt
    omega
  exact mul_le_mul_of_nonneg_right (by exact_mod_cast hint) hstep.le

/-- Rounding does not pass by a point of the grid from below. -/
lemma ge_of_ge (h : Rounds y v e) {k : ℤ} (hk : y ≤ k * 2 ^ e) : v ≤ k * 2 ^ e := by
  obtain ⟨m, rfl⟩ := h.onGrid
  have hstep : (0 : ℚ) < 2 ^ e := by positivity
  have hnear := (abs_le.mp h.near).2
  have hlt : (m : ℚ) < k + 1 := by
    by_contra hle
    nlinarith
  have hint : (m : ℤ) ≤ k := by
    have : (m : ℤ) < k + 1 := by exact_mod_cast hlt
    omega
  exact mul_le_mul_of_nonneg_right (by exact_mod_cast hint) hstep.le

lemma nonneg (h : Rounds y v e) : 0 ≤ v := by
  obtain ⟨m, rfl⟩ := h.onGrid
  positivity

/-- The error is small as measured by the rational, or as small as any number. -/
lemma error (h : Rounds y v e) : |v - y| ≤ y / 2 ^ 53 ∨ |v - y| ≤ 1 / 2 ^ 1075 := by
  obtain rfl | hfine := h.fine
  · refine .inr (h.near.trans_eq ?_)
    rw [zpow_neg, pow_succ, one_div, mul_inv, div_eq_mul_inv]
    rfl
  · refine .inl (h.near.trans ?_)
    rw [div_le_div_iff₀ (by positivity) (by positivity)]
    rw [zpow_add₀ two_ne_zero] at hfine
    have hpow : (2 : ℚ) ^ (52 : ℤ) * 2 = 2 ^ 53 := by norm_num
    rw [← hpow]
    nlinarith

/-- A grid that is not the finest has the leading bit in all that is rounded to it. -/
lemma leading_le (h : Rounds y v e) (he : -1074 < e) : 2 ^ (e + 52) ≤ v := by
  have hfine : (2 : ℚ) ^ (e + 52) ≤ y := h.fine.resolve_left he.ne'
  have hpoint : ((2 ^ 52 : ℤ) : ℚ) * 2 ^ e = 2 ^ (e + 52) := by
    rw [zpow_add₀ two_ne_zero, mul_comm]
    norm_cast
  rw [← hpoint] at hfine ⊢
  exact h.le_of_le hfine

/-- Whole numbers are on every grid of fractions. -/
lemma whole_onGrid (he : e ≤ 0) (n : ℕ) : ((n * 2 ^ (-e).toNat : ℤ) : ℚ) * 2 ^ e = n := by
  push_cast
  rw [mul_assoc, mul_comm ((2 : ℚ) ^ _), zpow_parts two_ne_zero, Int.toNat_of_nonpos he, pow_zero,
    mul_one]

/-- Rounding does not pass by a whole number of 53 bits. -/
lemma whole_le (h : Rounds y v e) {n : ℕ} (hn : n ≤ 2 ^ 53) (hle : (n : ℚ) ≤ y) : (n : ℚ) ≤ v := by
  by_cases he : e ≤ 0
  · rw [← whole_onGrid he n] at hle ⊢
    exact h.le_of_le hle
  · calc (n : ℚ) ≤ 2 ^ (53 : ℤ) := by exact_mod_cast hn
      _ ≤ 2 ^ (e + 52) := zpow_le_zpow_right₀ one_le_two (by omega)
      _ ≤ v := h.leading_le (by omega)

lemma le_whole (h : Rounds y v e) {n : ℕ} (hy : y < 2 ^ 53) (hle : y ≤ n) : v ≤ n := by
  have he : e ≤ 0 := by
    by_contra hlarge
    have hfine : (2 : ℚ) ^ (e + 52) ≤ y := h.fine.resolve_left (by omega)
    have hpow : (2 : ℚ) ^ (53 : ℤ) ≤ 2 ^ (e + 52) := zpow_le_zpow_right₀ one_le_two (by omega)
    exact absurd hy (not_lt.mpr (by exact_mod_cast hpow.trans hfine))
  rw [← whole_onGrid he n] at hle ⊢
  exact h.ge_of_ge hle

/-- Beyond 53 bits the rounded value is whole. -/
lemma whole (h : Rounds y v e) (hy : 2 ^ 53 ≤ y) : ∃ k : ℕ, v = k := by
  obtain ⟨m, rfl⟩ := h.onGrid
  have he : 0 < e := by
    have hlt : (2 : ℚ) ^ (53 : ℤ) < 2 ^ (e + 53) := lt_of_le_of_lt (by exact_mod_cast hy) h.below
    have := (zpow_lt_zpow_iff_right₀ one_lt_two).mp hlt
    omega
  refine ⟨m * 2 ^ e.toNat, ?_⟩
  rw [zpow_eq_div two_ne_zero, Int.toNat_of_nonpos (by omega : -e ≤ 0), pow_zero, div_one]
  push_cast
  rfl

/-- The mantissa has 53 bits, or is the next power of two and carries. -/
lemma mantissa_le {m : ℕ} (h : Rounds y (m * 2 ^ e) e) : m ≤ 2 ^ 53 := by
  have hgrid : ((2 ^ 53 : ℤ) : ℚ) * 2 ^ e = 2 ^ (e + 53) := by
    rw [zpow_add₀ two_ne_zero, mul_comm]
    norm_num
  have hle := h.ge_of_ge (hgrid ▸ h.below.le)
  exact_mod_cast le_of_mul_le_mul_right hle (by positivity)

/-- What is rounded to a grid beyond all numbers is itself beyond all numbers. -/
lemma vast (h : Rounds y v e) (he : maxExponent < e) : 2 ^ 1023 < y := by
  simp only [maxExponent] at he
  have hfine : (2 : ℚ) ^ (e + 52) ≤ y := h.fine.resolve_left (by omega)
  calc (2 : ℚ) ^ 1023 = 2 ^ (1023 : ℤ) := (zpow_natCast _ _).symm
    _ < 2 ^ (e + 52) := zpow_lt_zpow_right₀ one_lt_two (by omega)
    _ ≤ y := hfine

/-- What carries to such a grid is beyond all numbers as well. -/
lemma vast_of_carry (h : Rounds y (2 ^ 53 * 2 ^ e) e) (he : maxExponent < e + 1) : 2 ^ 1023 < y := by
  simp only [maxExponent] at he
  have hnear := (abs_le.mp h.near).2
  have hstep : (0 : ℚ) < 2 ^ e := by positivity
  have hexp : (2 : ℚ) ^ 971 ≤ 2 ^ e := by
    rw [← zpow_natCast]
    exact zpow_le_zpow_right₀ one_le_two (by omega)
  calc (2 : ℚ) ^ 1023 = 2 ^ 52 * 2 ^ 971 := by rw [← pow_add]
    _ ≤ 2 ^ 52 * 2 ^ e := mul_le_mul_of_nonneg_left hexp (by positivity)
    _ < y := by linarith only [hnear, hstep]

end Rounds

/-- A number is the nearest to a positive rational, or infinite where the rational is beyond all
numbers. What is too small for any is nearest to zero. -/
inductive Nearest (y : ℚ) : Binary64 → Prop
  | rounded {m : ℕ} {e g : ℤ} (hm : m < 2 ^ 53) (h : Rounds y (m * 2 ^ e) g) :
      Nearest y (.finite false m e)
  | tiny {e : ℤ} (h : y ≤ 1 / 2 ^ 1075) : Nearest y (.finite false 0 e)
  | vast (h : 2 ^ 1023 < y) : Nearest y (.infinite false)

/-- A quotient is rounded on the grid that its leading bit or the least exponent gives. -/
lemma roundQuotient_rounds {num den : Nat} (hnum : num ≠ 0) (hden : den ≠ 0) {e : ℤ}
    (he : e = max minExponent (floorLog2 num den - 52)) :
    Rounds (num / den)
      (roundQuotient (num * pow2 (-e).toNat) (den * pow2 e.toNat) * 2 ^ e) e := by
  obtain ⟨hlow, hhigh⟩ := floorLog2_spec hnum hden
  set y : ℚ := num / den with hy
  set m : Nat := roundQuotient (num * pow2 (-e).toNat) (den * pow2 e.toNat) with hm
  have hstep : (0 : ℚ) < 2 ^ e := by positivity
  have hscaled : ((num * pow2 (-e).toNat : ℕ) : ℚ) / (den * pow2 e.toNat : ℕ) = y / 2 ^ e := by
    rw [Nat.cast_mul, Nat.cast_mul, cast_pow2, cast_pow2, zpow_eq_div two_ne_zero, hy]
    field_simp
  have hround : |(m : ℚ) - y / 2 ^ e| ≤ 1 / 2 := by
    rw [← hscaled]
    exact roundQuotient_near _ (Nat.mul_ne_zero hden (Nat.pow_pos (by decide)).ne')
  refine ⟨he ▸ le_max_left _ _, ⟨m, rfl⟩, ?_, ?_, ?_⟩
  · have hfactor : (m : ℚ) * 2 ^ e - y = (m - y / 2 ^ e) * 2 ^ e := by
      rw [sub_mul, div_mul_cancel₀ _ hstep.ne']
    rw [hfactor, abs_mul, abs_of_pos hstep]
    nlinarith
  · refine hhigh.trans_le (zpow_le_zpow_right₀ one_le_two ?_)
    have := le_max_right minExponent (floorLog2 num den - 52)
    omega
  · by_cases hsmall : floorLog2 num den - 52 ≤ minExponent
    · exact .inl (he.trans (max_eq_left hsmall))
    · have hlead : e = floorLog2 num den - 52 := he.trans (max_eq_right (by omega))
      rw [hlead, sub_add_cancel]
      exact .inr hlow

lemma ofQuotient_nearest {num den : Nat} (hnum : num ≠ 0) (hden : den ≠ 0) :
    Nearest (num / den) (ofQuotient false num den) := by
  set e : ℤ := max minExponent (floorLog2 num den - 52) with he
  set m : Nat := roundQuotient (num * pow2 (-e).toNat) (den * pow2 e.toNat) with hm
  have hrounds : Rounds (num / den) (m * 2 ^ e) e := roundQuotient_rounds hnum hden he
  have hshape : ofQuotient false num den =
      let carried := if m = pow2 53 then (pow2 52, e + 1) else (m, e)
      if maxExponent < carried.2 then .infinite false else .finite false carried.1 carried.2 := by
    rw [ofQuotient, if_neg hnum]
  rw [hshape]
  by_cases hcarry : m = pow2 53
  · simp only [if_pos hcarry]
    rw [hcarry, cast_pow2] at hrounds
    by_cases hlarge : maxExponent < e + 1
    · rw [if_pos hlarge]
      exact .vast (hrounds.vast_of_carry hlarge)
    · rw [if_neg hlarge]
      have hsame : (pow2 52 : ℚ) * 2 ^ (e + 1) = 2 ^ 53 * 2 ^ e := by
        rw [cast_pow2, zpow_add₀ two_ne_zero]
        ring
      exact .rounded (g := e) (by decide) (hsame ▸ hrounds)
  · simp only [if_neg hcarry]
    by_cases hlarge : maxExponent < e
    · rw [if_pos hlarge]
      exact .vast (hrounds.vast hlarge)
    · rw [if_neg hlarge]
      have hne : m ≠ 2 ^ 53 := hcarry
      exact .rounded (lt_of_le_of_ne hrounds.mantissa_le hne) hrounds

/-- The nearest number is as near as 53 bits make it, or as the finest grid does. -/
lemma Nearest.error {y v : ℚ} {x : Binary64} (h : Nearest y x) (hy : 0 ≤ y) (hvalue : x.value? = some v) :
    |v - y| ≤ y / 2 ^ 53 ∨ |v - y| ≤ 1 / 2 ^ 1075 := by
  rcases h with ⟨-, hrounds⟩ | htiny | -
  · obtain rfl : _ = v := Option.some.inj hvalue
    rw [if_neg Bool.false_ne_true, one_mul]
    exact hrounds.error
  · obtain rfl : _ = v := Option.some.inj hvalue
    refine .inr ?_
    rwa [Nat.cast_zero, mul_zero, zero_mul, zero_sub, abs_neg, abs_of_nonneg hy]
  · cases hvalue

/-! ### Whole numbers, decimals and products -/

lemma ofInt_nearest {n : ℤ} (hn : 0 < n) : Nearest n (ofInt n) := by
  have habs : ((n.natAbs : ℕ) : ℚ) / (1 : ℕ) = n := by
    rw [Nat.cast_one, div_one]
    rw [← Int.cast_natCast, Int.natAbs_of_nonneg hn.le]
  rw [ofInt, decide_eq_false (by omega), ← habs]
  exact ofQuotient_nearest (by omega) one_ne_zero

/-- A decimal by its number of digits: it reaches one power of ten and not the next. -/
lemma decimal_between {digits : ℕ} (hdigits : digits ≠ 0) (scale : ℤ) :
    (10 : ℚ) ^ ((Nat.toDigits 10 digits).length + scale - 1) ≤ digits * 10 ^ scale ∧
      (digits : ℚ) * 10 ^ scale < 10 ^ ((Nat.toDigits 10 digits).length + scale) := by
  have hten : (0 : ℚ) < 10 ^ scale := by positivity
  have hlen : 0 < (Nat.toDigits 10 digits).length := Nat.length_toDigits_pos
  have hhigh : digits < 10 ^ (Nat.toDigits 10 digits).length :=
    (Nat.length_toDigits_le_iff (by decide) hlen).mp le_rfl
  have hlow : 10 ^ ((Nat.toDigits 10 digits).length - 1) ≤ digits := by
    by_contra hlt
    have hpos : 0 < (Nat.toDigits 10 digits).length - 1 := by
      rcases Nat.eq_zero_or_pos ((Nat.toDigits 10 digits).length - 1) with hzero | hpos
      · rw [hzero] at hlt
        omega
      · exact hpos
    have := (Nat.length_toDigits_le_iff (b := 10) (by decide) hpos).mpr (not_le.mp hlt)
    omega
  constructor
  · rw [show ((Nat.toDigits 10 digits).length : ℤ) + scale - 1 =
      (((Nat.toDigits 10 digits).length - 1 : ℕ) : ℤ) + scale by omega, zpow_add₀ (by norm_num),
      zpow_natCast]
    exact mul_le_mul_of_nonneg_right (by exact_mod_cast hlow) hten.le
  · rw [zpow_add₀ (by norm_num), zpow_natCast]
    exact mul_lt_mul_of_pos_right (by exact_mod_cast hhigh) hten

lemma ofDecimal_nearest {digits : ℕ} (hdigits : digits ≠ 0) (scale : ℤ) :
    Nearest (digits * 10 ^ scale) (ofDecimal false digits scale) := by
  obtain ⟨hlow, hhigh⟩ := decimal_between hdigits scale
  rw [ofDecimal, if_neg hdigits]
  dsimp only
  split
  · next hlarge =>
    refine .vast (lt_of_lt_of_le ?_ hlow)
    calc (2 : ℚ) ^ 1023 < 10 ^ (310 : ℤ) := by
          exact_mod_cast (by decide +kernel : (2 : ℕ) ^ 1023 < 10 ^ 310)
      _ ≤ _ := zpow_le_zpow_right₀ (by norm_num) (by omega)
  · split
    · next hsmall =>
      refine .tiny (hhigh.le.trans ?_)
      calc (10 : ℚ) ^ ((Nat.toDigits 10 digits).length + scale) ≤ 10 ^ (-330 : ℤ) :=
            zpow_le_zpow_right₀ (by norm_num) (by omega)
        _ = 1 / 10 ^ 330 := by rw [zpow_neg, one_div]; rfl
        _ ≤ 1 / 2 ^ 1075 := one_div_le_one_div_of_le (by positivity) (by
          exact_mod_cast (by decide +kernel : (2 : ℕ) ^ 1075 ≤ 10 ^ 330))
    · have hquotient : ((digits * pow10 scale.toNat : ℕ) : ℚ) / (pow10 (-scale).toNat : ℕ) =
          digits * 10 ^ scale := by
        rw [zpow_eq_div (by norm_num) scale, pow10, pow10, Nat.pow_eq, Nat.pow_eq]
        push_cast
        ring
      rw [← hquotient]
      exact ofQuotient_nearest (Nat.mul_ne_zero hdigits (Nat.pow_pos (by decide)).ne')
        (Nat.pow_pos (by decide)).ne'

lemma mul_nearest {m n : ℕ} (hm : m ≠ 0) (hn : n ≠ 0) (e f : ℤ) :
    Nearest (m * 2 ^ e * (n * 2 ^ f)) (.finite false m e * .finite false n f) := by
  have hquotient : ((m * n * pow2 (e + f).toNat : ℕ) : ℚ) / (pow2 (-(e + f)).toNat : ℕ) =
      m * 2 ^ e * (n * 2 ^ f) := by
    rw [Nat.cast_mul, cast_pow2, cast_pow2, mul_div_assoc, ← zpow_eq_div two_ne_zero,
      zpow_add₀ two_ne_zero]
    push_cast
    ring
  rw [← hquotient]
  exact ofQuotient_nearest (Nat.mul_ne_zero (Nat.mul_ne_zero hm hn) (Nat.pow_pos (by decide)).ne')
    (Nat.pow_pos (by decide)).ne'

lemma truncate?_finite (m : ℕ) (e : ℤ) :
    (Binary64.finite false m e).truncate? = some ⌊(m : ℚ) * 2 ^ e⌋ := by
  have hfloor : ⌊((m * pow2 e.toNat : ℕ) : ℚ) / (pow2 (-e).toNat : ℕ)⌋ =
      ((m * pow2 e.toNat / pow2 (-e).toNat : ℕ) : ℤ) := Rat.floor_natCast_div_natCast _ _
  rw [truncate?, zpow_eq_div two_ne_zero, ← cast_pow2, ← cast_pow2, ← mul_div_assoc, ← Nat.cast_mul,
    hfloor]
  rfl

end Binary64

end BearerAccess
