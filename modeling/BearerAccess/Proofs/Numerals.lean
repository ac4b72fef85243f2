import BearerAccess.Text.Hex
import Mathlib.Algebra.Group.Nat.Defs
import Mathlib.Tactic.Common

/-!
# Numbers of a fixed width

Lists of the same length are compared one part after the other. So numbers that are written in a base
with a fixed number of digits are in the order in which they are written, if the digits are in the
order of their values.
-/

namespace BearerAccess

/-! ### Lists in parts -/

lemma append_lt_append_iff {α : Type} [LT α] {a b c d : List α} (h : a.length = b.length) :
    a ++ c < b ++ d ↔ a < b ∨ a = b ∧ c < d := by
  induction a generalizing b with
  | nil =>
    rw [List.length_nil, eq_comm, List.length_eq_zero_iff] at h
    simp [h]
  | cons x a ih =>
    cases b with
    | nil => cases h
    | cons y b =>
      rw [List.length_cons, List.length_cons, Nat.succ_inj] at h
      rw [List.cons_append, List.cons_append, List.cons_lt_cons_iff, List.cons_lt_cons_iff, ih h,
        List.cons.injEq]
      tauto

lemma mark_lt_iff {mark : Char} {c d : List Char} : mark :: c < mark :: d ↔ c < d := by
  rw [List.cons_lt_cons_iff]
  simp

/-- A number with a part below `n` follows another by what stands above the part, then by the
part. -/
lemma mul_add_lt_iff {n a b c d : Nat} (hb : b < n) (hd : d < n) :
    a * n + b < c * n + d ↔ a < c ∨ a = c ∧ b < d := by
  obtain h | h | h := Nat.lt_trichotomy a c
  · have hmul := Nat.mul_le_mul_right n h
    rw [Nat.succ_mul] at hmul
    constructor <;> omega
  · subst h
    omega
  · have hmul := Nat.mul_le_mul_right n h
    rw [Nat.succ_mul] at hmul
    constructor <;> omega

/-! ### Digits -/

lemma div_lt_pow {base width n : Nat} (h : n < base ^ (width + 1)) : n / base < base ^ width :=
  Nat.div_lt_of_lt_mul (by rwa [Nat.pow_succ, Nat.mul_comm] at h)

/-- A way to write numbers in a base with a fixed number of digits, which are in the order of their
values. The last digit is the remainder. -/
structure Positional {α : Type} [LT α] (base : Nat) (digit : Nat → α)
    (write : Nat → Nat → List α) : Prop where
  base_pos : 0 < base
  digit_lt_iff : ∀ j < base, ∀ k < base, (digit j < digit k ↔ j < k)
  write_zero (n : Nat) : write 0 n = []
  write_succ (width n : Nat) : write (width + 1) n = write width (n / base) ++ [digit (n % base)]

namespace Positional

variable {α : Type} [LT α] {base : Nat} {digit : Nat → α} {write : Nat → Nat → List α}
  (h : Positional base digit write)

include h

lemma length (width n : Nat) : (write width n).length = width := by
  induction width generalizing n with
  | zero => rw [h.write_zero, List.length_nil]
  | succ width ih => rw [h.write_succ, List.length_append, ih, List.length_singleton]

lemma digit_inj {j k : Nat} (hj : j < base) (hk : k < base) (hdigit : digit j = digit k) : j = k := by
  have hself : ¬digit k < digit k := fun hlt => Nat.lt_irrefl k ((h.digit_lt_iff k hk k hk).mp hlt)
  have hlt : ¬j < k := fun hjk => hself (hdigit ▸ (h.digit_lt_iff j hj k hk).mpr hjk)
  have hgt : ¬k < j := fun hkj => hself (hdigit ▸ (h.digit_lt_iff k hk j hj).mpr hkj)
  omega

variable {width m n : Nat} (hm : m < base ^ width) (hn : n < base ^ width)

include hm hn

lemma inj (hwrite : write width m = write width n) : m = n := by
  induction width generalizing m n with
  | zero =>
    rw [Nat.pow_zero] at hm hn
    omega
  | succ width ih =>
    rw [h.write_succ, h.write_succ] at hwrite
    obtain ⟨hinit, hlast⟩ := List.append_inj' hwrite rfl
    have hdiv := ih (div_lt_pow hm) (div_lt_pow hn) hinit
    have hmod := h.digit_inj (Nat.mod_lt m h.base_pos) (Nat.mod_lt n h.base_pos)
      (List.cons.inj hlast).1
    rw [← Nat.div_add_mod' m base, hdiv, hmod, Nat.div_add_mod']

lemma eq_iff : write width m = write width n ↔ m = n :=
  ⟨h.inj hm hn, fun heq => by rw [heq]⟩

/-- Numbers of the same width follow one another as their digits do. -/
lemma lt_iff : write width m < write width n ↔ m < n := by
  induction width generalizing m n with
  | zero =>
    rw [Nat.pow_zero] at hm hn
    rw [h.write_zero, h.write_zero]
    exact iff_of_false (List.not_lt_nil _) (by omega)
  | succ width ih =>
    have hm' := Nat.mod_lt m h.base_pos
    have hn' := Nat.mod_lt n h.base_pos
    have hlast : [digit (m % base)] < [digit (n % base)] ↔ m % base < n % base := by
      rw [List.cons_lt_cons_iff, h.digit_lt_iff _ hm' _ hn']
      simp only [List.not_lt_nil, and_false, or_false]
    rw [h.write_succ, h.write_succ, append_lt_append_iff (by rw [h.length, h.length]),
      ih (div_lt_pow hm) (div_lt_pow hn), h.eq_iff (div_lt_pow hm) (div_lt_pow hn), hlast,
      ← mul_add_lt_iff hm' hn', Nat.div_add_mod', Nat.div_add_mod']

/-- A number of fixed width and what stands behind it are compared one after the other. -/
lemma append_lt_iff {c d : List α} :
    write width m ++ c < write width n ++ d ↔ m < n ∨ m = n ∧ c < d := by
  rw [append_lt_append_iff (by rw [h.length, h.length]), h.lt_iff hm hn, h.eq_iff hm hn]

end Positional

/-! ### Hexadecimal digits and bytes -/

lemma hex_positional : Positional 16 hexDigit hexPadded where
  base_pos := by decide
  digit_lt_iff := by decide
  write_zero _ := rfl
  write_succ _ _ := rfl

lemma bytes_positional : Positional 256 UInt8.ofNat bigEndian where
  base_pos := by decide
  digit_lt_iff j hj k hk := UInt8.ofNat_lt_iff_lt hj hk
  write_zero _ := rfl
  write_succ _ _ := rfl

end BearerAccess
