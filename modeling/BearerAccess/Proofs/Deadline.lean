import BearerAccess.Http.Application
import BearerAccess.Proofs.Action
import BearerAccess.Proofs.Change
import BearerAccess.Proofs.Rounding

/-!
# Deadlines

How long a statement may run on a server, from the seconds that are asked for to the milliseconds that
the server is told. The seconds are held as the number nearest to them, a thousand times this number is
rounded again, and what is left of a millisecond is cut off. Each step is bounded here by the rational
that the seconds stand for, so that it shows which limits come to nothing.
-/

namespace BearerAccess

namespace Binary64

/-- The number is one that there is: it has 53 bits, and its exponent is in bounds. -/
def Proper : Binary64 → Prop
  | .finite _ m e => m < 2 ^ 53 ∧ minExponent ≤ e ∧ e ≤ maxExponent
  | _ => True

/-- A number stands where it is. -/
lemma nearest_self {x : Binary64} {t : ℚ} (hx : x.Proper) (hvalue : x.value? = some t) (hpos : 0 < t) :
    Nearest t x := by
  cases x with
  | infinite => cases hvalue
  | nan => cases hvalue
  | finite negative m e =>
    obtain ⟨hm, hleast, -⟩ := hx
    have ht : (if negative then -1 else 1) * (m : ℚ) * 2 ^ e = t := Option.some.inj hvalue
    have hsize : (0 : ℚ) ≤ m * 2 ^ e := by positivity
    have hsign : negative = false := by
      by_contra hnegative
      rw [if_pos (eq_true_of_ne_false hnegative)] at ht
      linarith
    subst hsign
    rw [if_neg Bool.false_ne_true, one_mul] at ht
    subst ht
    have hm0 : m ≠ 0 := by
      rintro rfl
      simp at hpos
    have hbits : m.log2 ≤ 52 := Nat.lt_succ_iff.mp ((Nat.log2_lt hm0).mpr hm)
    have hlow : (2 : ℚ) ^ (m.log2 : ℤ) ≤ m := by exact_mod_cast Nat.log2_self_le hm0
    have hhigh : (m : ℚ) < 2 ^ ((m.log2 : ℤ) + 1) := by
      exact_mod_cast (Nat.lt_log2_self : m < 2 ^ (m.log2 + 1))
    have hstep : (0 : ℚ) < 2 ^ e := by positivity
    simp only [minExponent] at hleast
    refine .rounded (g := max (-1074) (m.log2 + e - 52)) hm
      ⟨le_max_left _ _, ⟨m * 2 ^ (e - max (-1074) (m.log2 + e - 52)).toNat, ?_⟩, ?_, ?_, ?_⟩
    · push_cast
      rw [mul_assoc, ← zpow_natCast, Int.toNat_of_nonneg (by omega), ← zpow_add₀ two_ne_zero,
        sub_add_cancel]
    · rw [sub_self, abs_zero]
      positivity
    · calc (m : ℚ) * 2 ^ e < 2 ^ ((m.log2 : ℤ) + 1) * 2 ^ e := mul_lt_mul_of_pos_right hhigh hstep
        _ = 2 ^ ((m.log2 : ℤ) + 1 + e) := (zpow_add₀ two_ne_zero _ _).symm
        _ ≤ _ := zpow_le_zpow_right₀ one_le_two (by omega)
    · by_cases hfinest : m.log2 + e - 52 ≤ -1074
      · exact .inl (max_eq_left hfinest)
      · refine .inr ?_
        rw [max_eq_right (by omega), sub_add_cancel, zpow_add₀ two_ne_zero]
        exact mul_le_mul_of_nonneg_right hlow hstep.le

/-! ### A thousandth -/

/-- The number nearest to a thousandth is above it, so nothing falls below a thousandth when it is
rounded. -/
lemma Rounds.thousandth_le {y v : ℚ} {e : ℤ} (h : Rounds y v e) (hy : 1 / 1000 ≤ y) : 1 / 1000 ≤ v := by
  have hcoarse : -62 ≤ e := by
    have hlt : (2 : ℚ) ^ (-10 : ℤ) < 2 ^ (e + 53) :=
      lt_of_le_of_lt (le_trans (by norm_num) hy) h.below
    have := (zpow_lt_zpow_iff_right₀ one_lt_two).mp hlt
    omega
  by_cases he : e = -62
  · subst he
    obtain ⟨m, rfl⟩ := h.onGrid
    have hnear := (abs_le.mp h.near).1
    norm_num at hnear ⊢
    have hm : 4611686018427387 < m := by
      have : (4611686018427387 : ℚ) < m := by linarith
      exact_mod_cast this
    have hm' : (4611686018427388 : ℚ) ≤ m := by exact_mod_cast hm
    linarith
  · calc (1 / 1000 : ℚ) ≤ 2 ^ (-9 : ℤ) := by norm_num
      _ ≤ 2 ^ (e + 52) := zpow_le_zpow_right₀ one_le_two (by omega)
      _ ≤ v := h.leading_le (by omega)

/-- The next number below a thousandth. -/
lemma below_thousandth {m : ℕ} {e : ℤ} (hm : m < 2 ^ 53) (hlt : (m : ℚ) * 2 ^ e < 1 / 1000) :
    (m : ℚ) * 2 ^ e ≤ 4611686018427387 / 2 ^ 62 := by
  by_cases he : e ≤ -63
  · have hm' : (m : ℚ) ≤ 2 ^ 53 := by exact_mod_cast hm.le
    calc (m : ℚ) * 2 ^ e ≤ 2 ^ 53 * 2 ^ (-63 : ℤ) :=
          mul_le_mul hm' (zpow_le_zpow_right₀ one_le_two he) (by positivity) (by positivity)
      _ ≤ _ := by norm_num
  · have hgrid : (m : ℚ) * 2 ^ e = (m * 2 ^ (e + 62).toNat : ℕ) / 2 ^ 62 := by
      push_cast
      rw [mul_div_assoc, ← zpow_natCast, ← zpow_natCast, Int.toNat_of_nonneg (by omega),
        ← zpow_sub₀ two_ne_zero]
      congr 2
      norm_num
    rw [hgrid] at hlt ⊢
    generalize m * 2 ^ (e + 62).toNat = k at *
    have hk : k < 4611686018427388 := by
      have : (k : ℚ) < 4611686018427388 := by
        rw [div_lt_iff₀ (by positivity)] at hlt
        norm_num at hlt
        linarith
      exact_mod_cast this
    have hk' : (k : ℚ) ≤ 4611686018427387 := by exact_mod_cast Nat.lt_succ_iff.mp hk
    exact div_le_div_of_nonneg_right hk' (by positivity)

/-- What is clearly less than one is rounded to less than one. -/
lemma Rounds.lt_one {y v : ℚ} {e : ℤ} (h : Rounds y v e) (hy : y ≤ 1 - 904 / 2 ^ 62) : v < 1 := by
  have he : e ≤ -53 := by
    by_contra hlarge
    have hfine : (2 : ℚ) ^ (e + 52) ≤ y := h.fine.resolve_left (by omega)
    have hone : (1 : ℚ) ≤ 2 ^ (e + 52) := one_le_zpow₀ one_le_two (by omega)
    norm_num at hy
    linarith
  have hstep : (2 : ℚ) ^ e ≤ 2 ^ (-53 : ℤ) := zpow_le_zpow_right₀ one_le_two he
  have hnear := (abs_le.mp h.near).2
  norm_num at hstep hy
  linarith

/-! ### A thousand times a number -/

/-- What a limit in milliseconds has to do with the seconds that are held. It is none only where they are
less than a thousandth; else it is their thousandfold to within a millisecond, as long as numbers tell
milliseconds apart. -/
structure Limits (v : ℚ) (ms : ℤ) : Prop where
  nonneg : 0 ≤ ms
  positive : 1 ≤ ms ↔ 1 / 1000 ≤ v
  near : 1000 * v < 2 ^ 53 → |ms - 1000 * v| < 1
  far : 2 ^ 53 ≤ 1000 * v → |ms - 1000 * v| ≤ 1000 * v / 2 ^ 53

lemma Limits.zero {v : ℚ} (hv : 0 ≤ v) (hsmall : v < 1 / 1000) : Limits v 0 where
  nonneg := le_rfl
  positive := by
    constructor
    · intro hone
      omega
    · intro hle
      linarith
  near := by
    intro _
    rw [Int.cast_zero, zero_sub, abs_neg, abs_of_nonneg (by linarith)]
    linarith
  far := by
    intro hlarge
    norm_num at hlarge
    linarith

/-- The thousandfold is rounded, and its fraction is cut off. -/
lemma Rounds.limits {m : ℕ} {e e' : ℤ} {p : ℚ} (hm : m < 2 ^ 53)
    (h : Rounds (1000 * (m * 2 ^ e)) p e') : Limits (m * 2 ^ e) ⌊p⌋ := by
  have hsize : (0 : ℚ) ≤ m * 2 ^ e := by positivity
  have hbelow : (m : ℚ) * 2 ^ e < 1 / 1000 → m * 2 ^ e ≤ (4611686018427387 / 2 ^ 62 : ℚ) :=
    below_thousandth hm
  generalize (m : ℚ) * 2 ^ e = v at *
  refine ⟨Int.floor_nonneg.mpr h.nonneg, ⟨fun hone => ?_, fun hle => ?_⟩, fun hsmall => ?_,
    fun hlarge => ?_⟩
  · by_contra hlt
    have hone' : p < 1 := h.lt_one (by
      have := hbelow (not_le.mp hlt)
      norm_num at this ⊢
      linarith)
    have := Int.floor_lt.mpr (show p < (1 : ℤ) by exact_mod_cast hone')
    omega
  · refine Int.le_floor.mpr ?_
    have := h.whole_le (n := 1) (by decide) (by push_cast; linarith)
    exact_mod_cast this
  · have hfloor : ((⌊1000 * v⌋₊ : ℕ) : ℚ) ≤ p := by
      refine h.whole_le ?_ (Nat.floor_le (by linarith))
      have := Nat.floor_le (a := 1000 * v) (by linarith)
      exact_mod_cast (this.trans hsmall.le)
    have hceil : p ≤ (⌈1000 * v⌉₊ : ℕ) := h.le_whole hsmall (Nat.le_ceil _)
    have hlow : (⌊1000 * v⌋₊ : ℤ) ≤ ⌊p⌋ := Int.le_floor.mpr (by exact_mod_cast hfloor)
    have hlow' : ((⌊1000 * v⌋₊ : ℕ) : ℚ) ≤ ⌊p⌋ := by exact_mod_cast hlow
    have hhigh : (⌊p⌋ : ℚ) ≤ (⌈1000 * v⌉₊ : ℕ) := (Int.floor_le p).trans hceil
    have hbefore := Nat.lt_floor_add_one (1000 * v)
    have hafter := Nat.ceil_lt_add_one (a := 1000 * v) (by linarith)
    rw [abs_lt]
    exact ⟨by linarith, by linarith⟩
  · obtain ⟨k, rfl⟩ := h.whole hlarge
    rw [Int.floor_natCast, Int.cast_natCast]
    obtain herror | herror := h.error
    · exact herror
    · refine herror.trans ?_
      calc (1 : ℚ) / 2 ^ 1075 ≤ 1 := by
            rw [div_le_one (by positivity)]
            exact one_le_pow₀ one_le_two
        _ ≤ _ := by rwa [one_le_div (by positivity)]

lemma ofInt_thousand : ofInt 1000 = .finite false 8796093022208000 (-43) := by decide +kernel

/-- A thousand times a number that is held, with its fraction cut off, is a limit. There is none where
the product is beyond all numbers. -/
lemma thousandfold_limits {m : ℕ} {e : ℤ} (hm : m < 2 ^ 53) :
    (∃ ms, (Binary64.finite false m e * ofInt 1000).truncate? = some ms ∧ Limits (m * 2 ^ e) ms) ∨
      Binary64.finite false m e * ofInt 1000 = .infinite false ∧
        (2 : ℚ) ^ 1023 < 1000 * (m * 2 ^ e) := by
  rcases Nat.eq_zero_or_pos m with rfl | hpos
  · refine .inl ⟨0, ?_, ?_⟩
    · rw [ofInt_thousand]
      change (ofQuotient _ (0 * _ * _) _).truncate? = _
      rw [Nat.zero_mul, ofQuotient, if_pos rfl]
      exact (truncate?_finite 0 _).trans (by simp)
    · exact Limits.zero (by positivity) (by norm_num)
  · have hthousand : (m : ℚ) * 2 ^ e * ((8796093022208000 : ℕ) * 2 ^ (-43 : ℤ)) = 1000 * (m * 2 ^ e) := by
      rw [mul_comm]
      congr 1
      norm_num
    have hnearest := mul_nearest hpos.ne' (n := 8796093022208000) (by decide) e (-43)
    rw [hthousand, ← ofInt_thousand] at hnearest
    rcases hproduct : Binary64.finite false m e * ofInt 1000 with ⟨sign, k, f⟩ | sign | _
    · rw [hproduct] at hnearest
      refine .inl ?_
      rcases hnearest with ⟨-, hrounds⟩ | htiny
      · exact ⟨_, truncate?_finite k f, hrounds.limits hm⟩
      · refine ⟨_, truncate?_finite 0 f, ?_⟩
        rw [Nat.cast_zero, zero_mul, Int.floor_zero]
        refine Limits.zero (by positivity) ?_
        have hone : (1 : ℚ) / 2 ^ 1075 < 1 := by
          rw [div_lt_one (by positivity)]
          exact one_lt_pow₀ one_lt_two (by decide)
        have hless := htiny.trans_lt hone
        linarith only [hless]
    · rw [hproduct] at hnearest
      cases hnearest with
      | vast h => exact .inr ⟨rfl, h⟩
    · rw [hproduct] at hnearest
      cases hnearest

end Binary64

/-! ### What quantities stand for -/

/-- The digits after a point, if there is one. -/
def spanFraction : List Char → List Char × List Char
  | '.' :: more => spanDigits more
  | cs => ([], cs)

/-- The digits of a decimal without a sign, and their scale. -/
def decimalParts? (cs : List Char) : Option (ℕ × ℤ) :=
  let (whole, rest) := spanDigits cs
  let (fraction, rest) := spanFraction rest
  if whole = [] ∧ fraction = [] then none
  else (readExponent? rest).map fun x => (digitsValue (whole ++ fraction), x - fraction.length)

/-- The rational that a text stands for, if it is a decimal. -/
def exactDecimal? (s : String) : Option ℚ := do
  let cs ← dropSeparators false (plainForm s)
  let (negative, cs) := takeSign cs
  let (digits, scale) ← decimalParts? cs
  return (if negative then -1 else 1) * digits * 10 ^ scale

/-- The rational that a quantity stands for, if it is finite: no text is rounded here. -/
def Quantity.stated? : Quantity → Option ℚ
  | .whole n => some n
  | .real x => x.value?
  | .truth b => some (if b then 1 else 0)
  | .text t => exactDecimal? (String.ofList t.legible)
  | .other _ => none

lemma spanFraction_of_ne {cs : List Char} (h : ∀ more, cs ≠ '.' :: more) : spanFraction cs = ([], cs) := by
  unfold spanFraction
  split
  · next more => exact absurd rfl (h more)
  · rfl

lemma readDecimal?_eq (negative : Bool) (cs : List Char) :
    readDecimal? negative cs =
      (decimalParts? cs).map fun d => Binary64.ofDecimal negative d.1 d.2 := by
  have hread : readDecimal? negative cs =
      if (spanDigits cs).1 = [] ∧ (spanFraction (spanDigits cs).2).1 = [] then none
      else do
        let x ← readExponent? (spanFraction (spanDigits cs).2).2
        return Binary64.ofDecimal negative
          (digitsValue ((spanDigits cs).1 ++ (spanFraction (spanDigits cs).2).1))
          (x - (spanFraction (spanDigits cs).2).1.length) := by
    unfold readDecimal?
    dsimp only
    split
    · next heq =>
      rw [heq]
      rfl
    · next hne => rw [spanFraction_of_ne hne]
  rw [hread, decimalParts?]
  dsimp only
  split
  · rfl
  · cases readExponent? (spanFraction (spanDigits cs).2).2 <;> rfl

lemma toLower_eq_of_isDigit {c : Char} (h : c.isDigit) : c.toLower = c := by
  unfold Char.toLower
  refine dif_neg ?_
  simp only [Char.isDigit, Bool.and_eq_true, decide_eq_true_eq] at h
  rintro ⟨hlow, -⟩
  exact absurd (UInt32.le_trans hlow h.2) (by decide)

/-- A text that starts neither with a digit nor with a point is no decimal. -/
lemma decimalParts?_of_head {c : Char} {cs : List Char} (hdigit : c.isDigit = false) (hpoint : c ≠ '.') :
    decimalParts? (c :: cs) = none := by
  have hspan : spanDigits (c :: cs) = ([], c :: cs) := by
    simp [spanDigits, hdigit]
  have hfraction : spanFraction (c :: cs) = ([], c :: cs) :=
    spanFraction_of_ne fun _ heq => hpoint (List.cons.inj heq).1
  rw [decimalParts?, hspan]
  dsimp only
  rw [hfraction, if_pos ⟨rfl, rfl⟩]

/-- The words for infinity and for no number are no decimals. -/
lemma decimalParts?_of_word {cs : List Char} {first : Char} {word : List Char}
    (hword : cs.map Char.toLower = first :: word) (hdigit : first.isDigit = false)
    (hpoint : first ≠ '.') : decimalParts? cs = none := by
  cases cs with
  | nil => cases hword
  | cons c cs =>
    have hfirst : c.toLower = first := (List.cons.inj hword).1
    refine decimalParts?_of_head ?_ ?_
    · by_contra hc
      rw [toLower_eq_of_isDigit (eq_true_of_ne_false hc)] at hfirst
      exact hc (hfirst ▸ hdigit)
    · rintro rfl
      exact hpoint hfirst.symm

/-- A decimal text is read as the number of its digits and scale. -/
lemma readNumber?_of_exact {s : String} {t : ℚ} (h : exactDecimal? s = some t) :
    ∃ negative digits scale, readNumber? s = some (Binary64.ofDecimal negative digits scale) ∧
      t = (if negative then -1 else 1) * digits * 10 ^ scale := by
  unfold exactDecimal? at h
  obtain ⟨cs, hcs, h⟩ := Option.bind_eq_some_iff.mp h
  rcases hsign : takeSign cs with ⟨negative, left⟩
  rw [hsign] at h
  obtain ⟨⟨digits, scale⟩, hparts, h⟩ := Option.bind_eq_some_iff.mp h
  refine ⟨negative, digits, scale, ?_, (Option.some.inj h).symm⟩
  have hword : ∀ first word, first.isDigit = false → first ≠ '.' →
      String.ofList (left.map Char.toLower) ≠ String.ofList (first :: word) := by
    intro first word hdigit hpoint heq
    rw [decimalParts?_of_word (String.ofList_injective heq) hdigit hpoint] at hparts
    cases hparts
  rw [readNumber?, hcs, Option.bind_eq_bind, Option.bind_some, hsign]
  dsimp only
  rw [if_neg, if_neg, readDecimal?_eq, hparts]
  · rfl
  · exact hword 'n' "an".toList (by decide) (by decide)
  · rintro (heq | heq)
    · exact hword 'i' "nf".toList (by decide) (by decide) heq
    · exact hword 'i' "nfinity".toList (by decide) (by decide) heq

lemma exactDecimal?_of_parts {s : String} {cs left : List Char} {negative : Bool} {digits : ℕ}
    {scale : ℤ} (hcs : dropSeparators false (plainForm s) = some cs)
    (hsign : takeSign cs = (negative, left)) (hparts : decimalParts? left = some (digits, scale)) :
    exactDecimal? s = some ((if negative then -1 else 1 : ℚ) * digits * 10 ^ scale) := by
  rw [exactDecimal?, hcs, Option.bind_eq_bind, Option.bind_some, hsign]
  dsimp only
  rw [hparts]
  rfl

/-- A positive quantity is held as the number nearest to it, or refused because it is beyond all
numbers. -/
lemma Quantity.toNumber_nearest {q : Quantity} {t : ℚ} (hproper : ∀ x, q = .real x → x.Proper)
    (hq : q.stated? = some t) (hpos : 0 < t) :
    (∃ x, q.toNumber = .ok x ∧ Binary64.Nearest t x) ∨
      (∃ f, q.toNumber = .error f) ∧ (2 : ℚ) ^ 1023 < t := by
  cases q with
  | whole n =>
    obtain rfl : (n : ℚ) = t := Option.some.inj hq
    have hnearest := Binary64.ofInt_nearest (n := n) (by exact_mod_cast hpos)
    rw [Quantity.toNumber]
    generalize Binary64.ofInt n = x at hnearest
    cases hnearest with
    | rounded hm h => exact .inl ⟨_, rfl, .rounded hm h⟩
    | tiny h => exact .inl ⟨_, rfl, .tiny h⟩
    | vast h => exact .inr ⟨⟨_, rfl⟩, h⟩
  | real x => exact .inl ⟨x, rfl, Binary64.nearest_self (hproper x rfl) hq hpos⟩
  | truth b =>
    have ht : (if b then 1 else 0 : ℚ) = t := Option.some.inj hq
    cases b with
    | false => exact absurd hpos (ht ▸ lt_irrefl _)
    | true =>
      obtain rfl : (1 : ℚ) = t := ht
      exact .inl ⟨_, rfl, by exact_mod_cast Binary64.ofInt_nearest one_pos⟩
  | text s =>
    obtain ⟨negative, digits, scale, hread, rfl⟩ := readNumber?_of_exact hq
    have hsize : (0 : ℚ) ≤ digits * 10 ^ scale := by positivity
    rw [mul_assoc] at hpos ⊢
    cases negative with
    | true =>
      rw [if_pos rfl] at hpos
      linarith
    | false =>
      rw [if_neg Bool.false_ne_true, one_mul] at hpos ⊢
      have hdigits : digits ≠ 0 := by
        rintro rfl
        simp at hpos
      refine .inl ⟨_, ?_, Binary64.ofDecimal_nearest hdigits scale⟩
      rw [Quantity.toNumber, numberSetting, hread]
  | other => cases hq

/-- What the seconds that are asked for, those that are held, and the milliseconds that a server is told
have to do with each other. -/
structure Deadline (t v : ℚ) (ms : ℤ) : Prop where
  held : |v - t| ≤ t / 2 ^ 53 ∨ |v - t| ≤ 1 / 2 ^ 1075
  limited : 1 / 1000 ≤ t → 1 ≤ ms
  limits : Binary64.Limits v ms

/-- Only seconds beyond `2 ^ 1013` have a thousandfold that is beyond all numbers. -/
lemma vast_of_thousandfold {t v : ℚ} (herror : |v - t| ≤ t / 2 ^ 53 ∨ |v - t| ≤ 1 / 2 ^ 1075)
    (hlarge : 2 ^ 1023 < 1000 * v) : (2 : ℚ) ^ 1013 < t := by
  have hpow : (2 : ℚ) ^ 1023 = 1024 * 2 ^ 1013 := by
    rw [show (1024 : ℚ) = 2 ^ 10 by norm_num, ← pow_add]
  have hone : (1 : ℚ) ≤ 2 ^ 1013 := one_le_pow₀ one_le_two
  have htiny : (1 : ℚ) / 2 ^ 1075 ≤ 1 / 2 ^ 53 :=
    one_div_le_one_div_of_le (by positivity) (pow_le_pow_right₀ one_le_two (by decide))
  rw [hpow] at hlarge
  generalize (2 : ℚ) ^ 1013 = bound at *
  generalize (1 : ℚ) / 2 ^ 1075 = least at *
  norm_num at htiny
  obtain herror | herror := herror
  · have hclose := (abs_le.mp herror).2
    linarith only [hclose, hlarge, hone]
  · have hclose := (abs_le.mp herror).2
    linarith only [hclose, hlarge, hone, htiny]

lemma wholeMilliseconds_of_held {q : Quantity} {m : ℕ} {e : ℤ} {t : ℚ}
    (hx : q.toNumber = .ok (.finite false m e)) (hm : m < 2 ^ 53)
    (herror : |(m : ℚ) * 2 ^ e - t| ≤ t / 2 ^ 53 ∨ |(m : ℚ) * 2 ^ e - t| ≤ 1 / 2 ^ 1075)
    (hkept : 1 / 1000 ≤ t → 1 / 1000 ≤ (m : ℚ) * 2 ^ e) :
    (∃ ms, wholeMilliseconds q = .ok ms ∧ Deadline t (m * 2 ^ e) ms) ∨
      (∃ f, wholeMilliseconds q = .error f) ∧ (2 : ℚ) ^ 1013 < t := by
  have hms : wholeMilliseconds q =
      Quantity.toInteger (.real (.finite false m e * Binary64.ofInt 1000)) := by
    simp only [wholeMilliseconds, hx, bind, Except.bind]
  obtain ⟨ms, htruncate, hlimits⟩ | ⟨hproduct, hlarge⟩ := Binary64.thousandfold_limits (e := e) hm
  · refine .inl ⟨ms, ?_, herror, fun hle => hlimits.positive.mpr (hkept hle), hlimits⟩
    rw [hms, Quantity.toInteger, htruncate]
  · refine .inr ⟨⟨Cause.range .wholeOfInfinity, ?_⟩, vast_of_thousandfold herror hlarge⟩
    rw [hms, hproduct]
    rfl

/-- A positive number of seconds becomes a limit in milliseconds, or it is refused as too large. -/
lemma wholeMilliseconds_deadline {q : Quantity} {t : ℚ} (hproper : ∀ x, q = .real x → x.Proper)
    (hq : q.stated? = some t) (hpos : 0 < t) :
    (∃ x v ms, q.toNumber = .ok x ∧ x.value? = some v ∧ wholeMilliseconds q = .ok ms ∧
      Deadline t v ms) ∨ (∃ f, wholeMilliseconds q = .error f) ∧ (2 : ℚ) ^ 1013 < t := by
  have hvalue : ∀ m e, (Binary64.finite false m e).value? = some ((m : ℚ) * 2 ^ e) := by
    intro m e
    rw [Binary64.value?, if_neg Bool.false_ne_true, one_mul]
  obtain ⟨x, hx, hnearest⟩ | ⟨⟨f, hf⟩, hvast⟩ := Quantity.toNumber_nearest hproper hq hpos
  · cases hnearest with
    | @rounded m e e' hm hrounds =>
      obtain ⟨ms, hms, hdeadline⟩ | hrefused :=
        wholeMilliseconds_of_held hx hm (hrounds.error) hrounds.thousandth_le
      · exact .inl ⟨_, _, ms, hx, hvalue m e, hms, hdeadline⟩
      · exact .inr hrefused
    | @tiny e h =>
      have hkept : 1 / 1000 ≤ t → 1 / 1000 ≤ ((0 : ℕ) : ℚ) * 2 ^ e := by
        intro hle
        have hpow : (1 : ℚ) / 2 ^ 1075 < 1 / 2 ^ 10 :=
          one_div_lt_one_div_of_lt (by positivity) (pow_lt_pow_right₀ one_lt_two (by decide))
        have hless := (hle.trans h).trans_lt hpow
        norm_num at hless
      obtain ⟨ms, hms, hdeadline⟩ | hrefused :=
        wholeMilliseconds_of_held hx (by decide) ((Binary64.Nearest.tiny h).error hpos.le (hvalue 0 e)) hkept
      · exact .inl ⟨_, _, ms, hx, hvalue 0 e, hms, hdeadline⟩
      · exact .inr hrefused
    | vast h =>
      refine .inr ⟨⟨Cause.range .wholeOfInfinity, ?_⟩, lt_trans ?_ h⟩
      · rw [wholeMilliseconds, hx, Binary64.ofInt_thousand]
        rfl
      · exact pow_lt_pow_right₀ one_lt_two (by decide)
  · refine .inr ⟨⟨f, ?_⟩, lt_trans ?_ hvast⟩
    · rw [wholeMilliseconds, hf]
      rfl
    · exact pow_lt_pow_right₀ one_lt_two (by decide)

/-! ### What servers are told -/

lemma statementOption_natCast (n : ℕ) :
    (statementOption n).toList = "-c statement_timeout=".toList ++ Nat.toDigits 10 n := by
  unfold statementOption
  simp [toString, Int.repr]

/-- The option says no limit only if there are no milliseconds in it. -/
lemma statementOption_zero_iff {ms : ℤ} (hms : 0 ≤ ms) :
    statementOption ms = "-c statement_timeout=0" ↔ ms = 0 := by
  constructor
  · intro h
    obtain ⟨n, rfl⟩ := Int.eq_ofNat_of_zero_le hms
    have hdigits : "-c statement_timeout=".toList ++ Nat.toDigits 10 n =
        "-c statement_timeout=".toList ++ ['0'] := by
      rw [← statementOption_natCast, h]
      rfl
    have hzero : Nat.toDigits 10 n = ['0'] := List.append_cancel_left hdigits
    have hlt : n < 10 ^ 1 :=
      (Nat.length_toDigits_le_iff (by decide) (by decide)).mp (by rw [hzero]; rfl)
    have hall : ∀ k < 10, Nat.toDigits 10 k = ['0'] → k = 0 := by decide
    rw [hall n hlt hzero]
    rfl
  · rintro rfl
    rfl

lemma preparePool_ok {address : Text} {request : PoolRequest} {w w' : World} {url : DatabaseUrl}
    {options : PoolOptions} (h : preparePool address request w = (.ok (url, options), w')) :
    DatabaseUrl.read address = .ok url ∧ poolOptions url.backend request = .ok options := by
  obtain ⟨_, _, heq⟩ | ⟨u, w₁, hread, h⟩ := Action.bind_cases h
  · cases heq
  obtain ⟨_, _, heq⟩ | ⟨o, w₂, hoptions, h⟩ := Action.bind_cases h
  · cases heq
  obtain ⟨_, _, heq⟩ | ⟨shown, w₃, -, h⟩ := Action.bind_cases h
  · cases heq
  rw [Action.liftExcept_apply, Prod.mk.injEq] at hread hoptions
  obtain ⟨rfl, rfl⟩ : u = url ∧ o = options := by
    rw [Action.bind_apply, writeLog_apply] at h
    exact Prod.mk.inj (Except.ok.inj (Prod.mk.inj h).1)
  exact ⟨hread.1, hoptions.1⟩

lemma preparePool_made {address shown : Text} {request : PoolRequest} {url : DatabaseUrl}
    {options : PoolOptions} (hread : DatabaseUrl.read address = .ok url)
    (hoptions : poolOptions url.backend request = .ok options) (hshown : url.shown = .ok shown)
    (w : World) : ∃ w', preparePool address request w = (.ok (url, options), w') := by
  refine ⟨w.write .debug .engine ("Creating engine for " ++ shown), ?_⟩
  rw [preparePool, Action.bind_apply, Action.liftExcept_apply, hread]
  dsimp only
  rw [Action.bind_apply, Action.liftExcept_apply, hoptions]
  dsimp only
  rw [Action.bind_apply, Action.liftExcept_apply, hshown]
  rfl

section

variable {request : PoolRequest} {q : Quantity} (hrequest : request.statementTimeout = some q)

include hrequest

lemma poolOptions_postgresql : poolOptions "postgresql" request = do
    let size ← convert Quantity.toInteger request.poolSize
    let timeout ← convert Quantity.toNumber request.poolTimeout
    let ms ← wholeMilliseconds q
    return .server size timeout (some ms) := by
  rw [poolOptions, if_neg (by decide), hrequest]
  rcases convert Quantity.toInteger request.poolSize with f | size
  · rfl
  rcases convert Quantity.toNumber request.poolTimeout with f | timeout
  · rfl
  simp only [bind, Except.bind, if_pos, convert]
  cases wholeMilliseconds q <;> rfl

lemma poolOptions_server {options : PoolOptions} (h : poolOptions "postgresql" request = .ok options) :
    ∃ size timeout ms, wholeMilliseconds q = .ok ms ∧ options = .server size timeout (some ms) := by
  rw [poolOptions_postgresql hrequest] at h
  obtain ⟨size, -, h⟩ := Tables.bind_ok h
  obtain ⟨timeout, -, h⟩ := Tables.bind_ok h
  obtain ⟨ms, hms, h⟩ := Tables.bind_ok h
  exact ⟨size, timeout, ms, hms, (Except.ok.inj h).symm⟩

lemma poolOptions_made {size : Option ℤ} {timeout : Option Binary64} {ms : ℤ}
    (hsize : convert Quantity.toInteger request.poolSize = .ok size)
    (htimeout : convert Quantity.toNumber request.poolTimeout = .ok timeout)
    (hms : wholeMilliseconds q = .ok ms) :
    poolOptions "postgresql" request = .ok (.server size timeout (some ms)) := by
  rw [poolOptions_postgresql hrequest, hsize, htimeout, hms]
  rfl

end

/-- The seconds of the environment are read as those of a text that is given directly. -/
lemma Settings.read_statementTimeout {env : Environment} {settings : Settings}
    (h : Settings.read env = .ok settings) :
    ∃ x, (Quantity.text ((env.lookup "SQLALCHEMY_STATEMENT_TIMEOUT").getD "10")).toNumber = .ok x ∧
      settings.statementTimeout = some (.real x) := by
  obtain ⟨_, -, h⟩ := Tables.bind_ok h
  obtain ⟨_, -, h⟩ := Tables.bind_ok h
  obtain ⟨x, hx, h⟩ := Tables.bind_ok h
  obtain ⟨_, -, h⟩ := Tables.bind_ok h
  cases h
  exact ⟨x, hx, rfl⟩

lemma poolOptions_text (backend : String) {request : PoolRequest} {t : Text} {x : Binary64}
    (hx : (Quantity.text t).toNumber = .ok x) (hrequest : request.statementTimeout = some (.real x)) :
    poolOptions backend request =
      poolOptions backend { request with statementTimeout := some (.text t) } := by
  have hnumber : convert Quantity.toNumber (some (.real x)) =
      convert Quantity.toNumber (some (.text t)) := congrArg (Except.map some) hx.symm
  have hms : convert wholeMilliseconds (some (.real x)) =
      convert wholeMilliseconds (some (.text t)) := by
    rw [convert, convert, wholeMilliseconds, wholeMilliseconds, hx]
    rfl
  rw [poolOptions, poolOptions, hrequest]
  dsimp only
  rw [hnumber, hms]

/-- A server is told no limit although a positive one is asked for, exactly if the number that the seconds
are held as is less than a thousandth: what is left of a millisecond is cut off, and none says that there
is no limit. From a thousandth on there is a limit, less than a millisecond from the seconds that are
held, which are those that are asked for if these are a number, and else nearest to them. Where numbers
do not tell milliseconds apart, the limit is as near as numbers are. Seconds of the environment are
treated in the same way as those that are given directly. -/
theorem preparePool_deadline {address : Text} {url : DatabaseUrl} {request : PoolRequest}
    {q : Quantity} {t : ℚ} (hread : DatabaseUrl.read address = .ok url)
    (hbackend : url.backend = "postgresql") (hrequest : request.statementTimeout = some q)
    (hproper : ∀ x, q = .real x → x.Proper) (hq : q.stated? = some t) (hpos : 0 < t) :
    (∀ w w' made options, preparePool address request w = (.ok (made, options), w') →
      ∃ size timeout ms x v, options = .server size timeout (some ms) ∧
        q.toNumber = .ok x ∧ x.value? = some v ∧ (q = .real x → v = t) ∧ Deadline t v ms ∧
        (statementOption ms = "-c statement_timeout=0" ↔ v < 1 / 1000)) ∧
      (∀ size timeout shown, convert Quantity.toInteger request.poolSize = .ok size →
        convert Quantity.toNumber request.poolTimeout = .ok timeout → url.shown = .ok shown →
        t ≤ 2 ^ 1013 → ∀ w, ∃ ms w',
          preparePool address request w = (.ok (url, .server size timeout (some ms)), w')) ∧
      ∀ env settings, Settings.read env = .ok settings →
        q = .text ((env.lookup "SQLALCHEMY_STATEMENT_TIMEOUT").getD "10") →
        preparePool address (Application.poolRequest settings) =
          preparePool address
            { Application.poolRequest settings with statementTimeout := some q } := by
  refine ⟨?_, ?_, ?_⟩
  · intro w w' made options hmade
    obtain ⟨hread', hoptions⟩ := preparePool_ok hmade
    obtain rfl : url = made := Except.ok.inj (hread.symm.trans hread')
    rw [hbackend] at hoptions
    obtain ⟨size, timeout, ms, hms, rfl⟩ := poolOptions_server hrequest hoptions
    obtain ⟨x, v, ms', hx, hv, hms', hdeadline⟩ | ⟨⟨f, hf⟩, -⟩ :=
      wholeMilliseconds_deadline hproper hq hpos
    · obtain rfl : ms = ms' := Except.ok.inj (hms.symm.trans hms')
      have hsame : q = .real x → v = t := by
        rintro rfl
        exact Option.some.inj (hv.symm.trans hq)
      refine ⟨size, timeout, ms, x, v, rfl, hx, hv, hsame, hdeadline, ?_⟩
      rw [statementOption_zero_iff hdeadline.limits.nonneg, ← not_le, ← hdeadline.limits.positive]
      have := hdeadline.limits.nonneg
      omega
    · rw [hms] at hf
      cases hf
  · intro size timeout shown hsize htimeout hshown hle w
    obtain ⟨x, v, ms, -, -, hms, -⟩ | ⟨-, hlarge⟩ := wholeMilliseconds_deadline hproper hq hpos
    · obtain ⟨w', hmade⟩ := preparePool_made hread
        (hbackend.symm ▸ poolOptions_made hrequest hsize htimeout hms) hshown w
      exact ⟨ms, w', hmade⟩
    · exact absurd hle (not_le.mpr hlarge)
  · rintro env settings hsettings rfl
    obtain ⟨x, hx, htimeout⟩ := Settings.read_statementTimeout hsettings
    have hpool (backend : String) : poolOptions backend (Application.poolRequest settings) =
        poolOptions backend { Application.poolRequest settings with
          statementTimeout := some (.text ((env.lookup "SQLALCHEMY_STATEMENT_TIMEOUT").getD "10")) } :=
      poolOptions_text backend hx htimeout
    simp only [preparePool, hpool]

/-- A limit of one and a half seconds is a limit. -/
theorem preparePool_deadline_halves :
    DatabaseUrl.read "postgresql://h/db" =
        .ok { driver := "postgresql", host := some "h", database := some "db" } ∧
      (Quantity.text "1.5").stated? = some (3 / 2) ∧
      ∀ w, ∃ url ms w', preparePool "postgresql://h/db" { statementTimeout := some (.text "1.5") } w =
        (.ok (url, .server none none (some ms)), w') ∧ 1 ≤ ms := by
  have hread : DatabaseUrl.read "postgresql://h/db" =
      .ok { driver := "postgresql", host := some "h", database := some "db" } := by decide +kernel
  have hexact : (Quantity.text "1.5").stated? = some (3 / 2) := by
    have hparts : decimalParts? ['1', '.', '5'] = some (15, -1) := by decide +kernel
    have hsign : takeSign ['1', '.', '5'] = (false, ['1', '.', '5']) := rfl
    rw [Quantity.stated?, exactDecimal?_of_parts (by decide +kernel) hsign hparts]
    norm_num
  have hrequest : ({ statementTimeout := some (.text "1.5") } : PoolRequest).statementTimeout =
      some (.text "1.5") := rfl
  obtain ⟨hbounded, hmade, -⟩ := preparePool_deadline hread (by decide +kernel) hrequest
    (by rintro x ⟨⟩) hexact (by norm_num)
  refine ⟨hread, hexact, fun w => ?_⟩
  obtain ⟨ms, w', hw⟩ := hmade none none "postgresql://h/db" rfl rfl (by decide +kernel)
    (le_trans (by norm_num) (pow_le_pow_right₀ one_le_two (by decide : 1 ≤ 1013))) w
  obtain ⟨size, timeout, ms', x, v, hoptions, -, -, -, hdeadline, -⟩ := hbounded w w' _ _ hw
  obtain ⟨-, -, hms⟩ := PoolOptions.server.inj hoptions
  obtain rfl : ms = ms' := Option.some.inj hms
  exact ⟨_, ms, w', hw, hdeadline.limited (by norm_num)⟩

/-- Half a millisecond is asked for, and the server is told that there is no limit. -/
theorem preparePool_unlimited :
    (Quantity.text "0.0005").stated? = some (1 / 2000) ∧ (0 : ℚ) < 1 / 2000 ∧
      DatabaseUrl.read "postgresql://h/db" =
        .ok { driver := "postgresql", host := some "h", database := some "db" } ∧
      (preparePool "postgresql://h/db" { statementTimeout := some (.text "0.0005") } {}).1.map (·.2) =
        .ok (.server none none (some 0)) ∧
      statementOption 0 = "-c statement_timeout=0" ∧
      ∀ size timeout ms,
        (preparePool "postgresql://h/db" { statementTimeout := some (.text "0.0005") } {}).1.map (·.2) =
          .ok (.server size timeout (some ms)) → ¬ 1 ≤ ms := by
  have hmade : (preparePool "postgresql://h/db" { statementTimeout := some (.text "0.0005") }
      {}).1.map (·.2) = .ok (.server none none (some 0)) := by decide +kernel
  refine ⟨?_, by norm_num, by decide +kernel, hmade, rfl, ?_⟩
  · have hparts : decimalParts? "0.0005".toList = some (5, -4) := by decide +kernel
    have hsign : takeSign "0.0005".toList = (false, "0.0005".toList) := by decide +kernel
    rw [Quantity.stated?, exactDecimal?_of_parts (by decide +kernel) hsign hparts]
    norm_num
  · intro size timeout ms hms
    obtain ⟨-, -, hzero⟩ := PoolOptions.server.inj (Except.ok.inj (hmade.symm.trans hms))
    rw [← Option.some.inj hzero]
    decide

end BearerAccess
