import LotSearch.Number.Dyadic
import Mathlib

/-!
# Rounding to floating-point values

What a quotient rounds to depends on its value alone.  A value of the double format is a multiple
of the power of two at its exponent, and a number that rounds to it lies within half that power.
So no value of the format is nearer, and a value of the format rounds to itself.
-/

namespace LotSearch

theorem zpow_eq_div {a : ℚ} (ha : a ≠ 0) (n : ℤ) : a ^ n = a ^ n.toNat / a ^ (-n).toNat := by
  rw [eq_div_iff (pow_ne_zero _ ha), ← zpow_natCast, ← zpow_natCast, ← zpow_add₀ ha]
  congr 1
  omega

/-- A multiple of a power is a multiple of every lower power. -/
theorem exists_mul_zpow_eq {b : ℕ} (hb : b ≠ 0) (n : ℕ) {e f : ℤ} (h : f ≤ e) :
    ∃ k : ℕ, (n : ℚ) * (b : ℚ) ^ e = k * (b : ℚ) ^ f := by
  refine ⟨n * b ^ (e - f).toNat, ?_⟩
  have hb' : (b : ℚ) ≠ 0 := Nat.cast_ne_zero.2 hb
  rw [Nat.cast_mul, Nat.cast_pow, mul_assoc, ← zpow_natCast, ← zpow_add₀ hb']
  congr 2
  omega

/-! ## The nearest integer -/

theorem abs_divNearest_sub_le (num : Nat) {den : Nat} (hden : 0 < den) :
    |(divNearest num den : ℚ) - num / den| ≤ 1 / 2 := by
  have hden' : (0 : ℚ) < den := by exact_mod_cast hden
  have hmod : num % den < den := Nat.mod_lt _ hden
  have hsplit : (num : ℚ) / den = (num / den : Nat) + (num % den : Nat) / (den : ℚ) := by
    have hnum : (num : ℚ) = den * (num / den : Nat) + (num % den : Nat) := by
      exact_mod_cast (Nat.div_add_mod num den).symm
    field_simp
    linarith
  have hrest : (0 : ℚ) ≤ (num % den : Nat) / (den : ℚ) := by positivity
  have hrest' : ((num % den : Nat) : ℚ) / den < 1 := by
    rw [div_lt_one hden']
    exact_mod_cast hmod
  have hlow : 2 * (num % den) ≤ den → ((num % den : Nat) : ℚ) / den ≤ 1 / 2 := by
    intro h
    rw [div_le_div_iff₀ hden' two_pos]
    exact_mod_cast (by omega : (num % den) * 2 ≤ 1 * den)
  have hhigh : den ≤ 2 * (num % den) → 1 / 2 ≤ ((num % den : Nat) : ℚ) / den := by
    intro h
    rw [div_le_div_iff₀ two_pos hden']
    exact_mod_cast (by omega : 1 * den ≤ (num % den) * 2)
  rw [hsplit, abs_le]
  simp only [divNearest]
  split_ifs with hbelow habove heven
  · have := hlow hbelow.le
    constructor <;> linarith
  · have := hhigh habove.le
    push_cast
    constructor <;> linarith
  · have := hlow (by omega)
    constructor <;> linarith
  · have := hhigh (by omega)
    push_cast
    constructor <;> linarith

theorem divNearest_mul_right (num den : Nat) {c : Nat} (hc : 0 < c) :
    divNearest (num * c) (den * c) = divNearest num den := by
  have hbelow : 2 * (num % den * c) < den * c ↔ 2 * (num % den) < den := by
    rw [← mul_assoc, Nat.mul_lt_mul_right hc]
  have habove : den * c < 2 * (num % den * c) ↔ den < 2 * (num % den) := by
    rw [← mul_assoc, Nat.mul_lt_mul_right hc]
  simp only [divNearest, Nat.mul_div_mul_right _ _ hc, Nat.mul_mod_mul_right, hbelow, habove]

theorem divNearest_congr {num den num' den' : Nat} (hden : 0 < den) (hden' : 0 < den')
    (h : (num : ℚ) / den = num' / den') : divNearest num den = divNearest num' den' := by
  have hcross : num * den' = num' * den := by
    rw [div_eq_div_iff (by positivity) (by positivity)] at h
    exact_mod_cast h
  rw [← divNearest_mul_right num den hden', ← divNearest_mul_right num' den' hden, hcross,
    mul_comm den den']

namespace Dyadic

/-! ## The exponent of a quotient -/

theorem mul_pow_lt_iff (num : Nat) {den : Nat} (hden : 0 < den) (b : ℤ) :
    num * Nat.pow 2 (-b).toNat < den * Nat.pow 2 b.toNat ↔ (num : ℚ) / den < 2 ^ b := by
  have hden' : (0 : ℚ) < den := by exact_mod_cast hden
  rw [zpow_eq_div two_ne_zero, div_lt_div_iff₀ hden' (by positivity), mul_comm (2 ^ b.toNat : ℚ)]
  simp only [Nat.pow_eq]
  exact_mod_cast Iff.rfl

/-- The exponent leaves as many bits before the point as the format has. -/
theorem exponentFor_eq (format : BinaryFormat) {num den : Nat} (hnum : 0 < num) (hden : 0 < den) :
    exponentFor format num den =
      max (Int.log 2 ((num : ℚ) / den) - format.precision + 1) format.minExponent := by
  have hpos : (0 : ℚ) < num / den := by positivity
  have hnum_low : (2 : ℚ) ^ (Nat.log2 num) ≤ num := by exact_mod_cast Nat.log2_self_le hnum.ne'
  have hnum_high : (num : ℚ) < 2 ^ (Nat.log2 num + 1) := by exact_mod_cast Nat.lt_log2_self
  have hden_low : (2 : ℚ) ^ (Nat.log2 den) ≤ den := by exact_mod_cast Nat.log2_self_le hden.ne'
  have hden_high : (den : ℚ) < 2 ^ (Nat.log2 den + 1) := by exact_mod_cast Nat.lt_log2_self
  have hden' : (0 : ℚ) < den := by exact_mod_cast hden
  have hlow : (Nat.log2 num : ℤ) - Nat.log2 den - 1 ≤ Int.log 2 ((num : ℚ) / den) := by
    rw [← Int.zpow_le_iff_le_log one_lt_two hpos]
    push_cast
    rw [le_div_iff₀ hden', sub_sub, zpow_sub₀ two_ne_zero, div_mul_eq_mul_div,
      div_le_iff₀ (by positivity)]
    calc (2 : ℚ) ^ (Nat.log2 num : ℤ) * den ≤ num * 2 ^ (Nat.log2 den + 1) := by
          rw [zpow_natCast]
          gcongr
      _ = num * 2 ^ ((Nat.log2 den : ℤ) + 1) := by norm_cast
  have hhigh : Int.log 2 ((num : ℚ) / den) < (Nat.log2 num : ℤ) - Nat.log2 den + 1 := by
    rw [← Int.lt_zpow_iff_log_lt one_lt_two hpos]
    push_cast
    rw [div_lt_iff₀ hden', sub_add_eq_add_sub, zpow_sub₀ two_ne_zero, div_mul_eq_mul_div,
      lt_div_iff₀ (by positivity)]
    calc (num : ℚ) * 2 ^ (Nat.log2 den : ℤ) ≤ num * den := by
          rw [zpow_natCast]
          gcongr
      _ < 2 ^ (Nat.log2 num + 1) * den := by gcongr
      _ = 2 ^ ((Nat.log2 num : ℤ) + 1) * den := by norm_cast
  have hfits := (mul_pow_lt_iff num hden ((Nat.log2 num : ℤ) - Nat.log2 den)).trans
    (Int.lt_zpow_iff_log_lt one_lt_two hpos)
  simp only [exponentFor, sub_add_cancel, hfits, decide_eq_true_eq]
  congr 1
  split_ifs <;> omega

/-! ## The value that a quotient rounds to -/

theorem ofQuotient?_congr (format : BinaryFormat) (negative : Bool) {num den num' den' : Nat}
    (hden : 0 < den) (hden' : 0 < den') (h : (num : ℚ) / den = num' / den') :
    ofQuotient? format negative num den = ofQuotient? format negative num' den' := by
  have hzero : num = 0 ↔ num' = 0 := by
    have hne : (den : ℚ) ≠ 0 := by positivity
    have hne' : (den' : ℚ) ≠ 0 := by positivity
    rw [div_eq_div_iff hne hne'] at h
    have hcross : num * den' = num' * den := by exact_mod_cast h
    constructor
    · rintro rfl
      simpa [hden.ne'] using hcross
    · rintro rfl
      simpa [hden'.ne'] using hcross
  by_cases hnum : num = 0
  · simp only [ofQuotient?, hnum, hzero.1 hnum, if_true]
  have hnum' : num' ≠ 0 := fun h => hnum (hzero.2 h)
  have hexponent : exponentFor format num den = exponentFor format num' den' := by
    rw [exponentFor_eq format (Nat.pos_of_ne_zero hnum) hden,
      exponentFor_eq format (Nat.pos_of_ne_zero hnum') hden', h]
  have hnearest : ∀ e : ℤ, divNearest (num * Nat.pow 2 (-e).toNat) (den * Nat.pow 2 e.toNat) =
      divNearest (num' * Nat.pow 2 (-e).toNat) (den' * Nat.pow 2 e.toNat) := by
    intro e
    apply divNearest_congr (Nat.mul_pos hden (Nat.two_pow_pos _))
      (Nat.mul_pos hden' (Nat.two_pow_pos _))
    push_cast
    rw [mul_div_mul_comm, mul_div_mul_comm, h]
  simp only [ofQuotient?, if_neg hnum, if_neg hnum', hexponent, hnearest]

/-- The value of a format nearest to a rational number that is not negative. -/
def nearest? (format : BinaryFormat) (negative : Bool) (q : ℚ) : Option Dyadic :=
  ofQuotient? format negative q.num.natAbs q.den

theorem ofQuotient?_eq_nearest? (format : BinaryFormat) (negative : Bool) (num : Nat) {den : Nat}
    (hden : 0 < den) :
    ofQuotient? format negative num den = nearest? format negative ((num : ℚ) / den) := by
  apply ofQuotient?_congr format negative hden (Rat.den_pos _)
  have hnonneg : (0 : ℚ) ≤ (num : ℚ) / den := by positivity
  rw [Nat.cast_natAbs, abs_of_nonneg (Rat.num_nonneg.2 hnonneg), Rat.num_div_den]

/-- The absolute value as a rational number. -/
def value (x : Dyadic) : ℚ := x.num / x.den

theorem value_eq (x : Dyadic) : x.value = x.significand * 2 ^ x.exponent := by
  simp only [value, num, den, Nat.pow_eq]
  push_cast
  rw [zpow_eq_div two_ne_zero, mul_div_assoc]

theorem value_nonneg (x : Dyadic) : 0 ≤ x.value := by
  rw [value_eq]
  positivity

/-- A number in the double format: a significand of full precision, or the least exponent. -/
structure IsDouble (x : Dyadic) : Prop where
  significand_lt : x.significand < 2 ^ 53
  le_exponent : -1074 ≤ x.exponent
  exponent_le : x.exponent ≤ 971
  full : 2 ^ 52 ≤ x.significand ∨ x.exponent = -1074

/-- The exponent and the multiple that a positive number is rounded to, before a multiple that
has become too large is halved. -/
structure Rounded (q : ℚ) (e : ℤ) (m : ℕ) : Prop where
  near : |(m : ℚ) - q / 2 ^ e| ≤ 1 / 2
  lt : q < 2 ^ 53 * 2 ^ e
  le_exponent : -1074 ≤ e
  full : 2 ^ 52 * 2 ^ e ≤ q ∨ e = -1074

/-- The value with a multiple, which is halved when it has one bit too many. -/
def ofMultiple? (negative : Bool) (m : ℕ) (e : ℤ) : Option Dyadic :=
  if m < 2 ^ 53 then
    if e ≤ 971 then some ⟨negative, m, e⟩ else none
  else if e + 1 ≤ 971 then some ⟨negative, m / 2, e + 1⟩ else none

theorem exists_rounded (negative : Bool) {q : ℚ} (hq : 0 < q) :
    ∃ e m, Rounded q e m ∧ nearest? .double negative q = ofMultiple? negative m e := by
  have hnum : 0 < q.num.natAbs := Int.natAbs_pos.2 (Rat.num_pos.2 hq).ne'
  have hquotient : (q.num.natAbs : ℚ) / q.den = q := by
    rw [Nat.cast_natAbs, abs_of_nonneg (Rat.num_pos.2 hq).le, Rat.num_div_den]
  have hexponent := exponentFor_eq .double hnum (Rat.den_pos q)
  rw [hquotient] at hexponent
  set e := exponentFor .double q.num.natAbs q.den with he
  have hlog : e = max (Int.log 2 q - 52) (-1074) := by
    rw [hexponent, BinaryFormat.double]
    norm_num
    omega
  have hlow := Int.zpow_log_le_self (R := ℚ) one_lt_two hq
  have hhigh := Int.lt_zpow_succ_log_self (R := ℚ) one_lt_two q
  push_cast at hlow hhigh
  have hscaled : ((q.num.natAbs * Nat.pow 2 (-e).toNat : ℕ) : ℚ) /
      (q.den * Nat.pow 2 e.toNat : ℕ) = q / 2 ^ e := by
    simp only [Nat.pow_eq]
    push_cast
    rw [mul_div_mul_comm, hquotient, zpow_eq_div two_ne_zero, div_div_eq_mul_div, mul_div_assoc]
  refine ⟨e, divNearest (q.num.natAbs * Nat.pow 2 (-e).toNat) (q.den * Nat.pow 2 e.toNat),
    ⟨?near, ?lt, ?low, ?full⟩, ?value⟩
  case value =>
    rw [nearest?, ofQuotient?, if_neg hnum.ne', ofMultiple?]
    rfl
  case near =>
    rw [← hscaled]
    exact abs_divNearest_sub_le _ (Nat.mul_pos (Rat.den_pos q) (Nat.two_pow_pos _))
  case lt =>
    calc q < 2 ^ (Int.log 2 q + 1) := hhigh
      _ ≤ 2 ^ (53 + e) := zpow_le_zpow_right₀ one_le_two (by omega)
      _ = 2 ^ 53 * 2 ^ e := by rw [zpow_add₀ two_ne_zero]; norm_num
  case low => omega
  case full =>
    rcases max_choice (Int.log 2 q - 52) (-1074) with hfull | hleast
    · left
      calc (2 : ℚ) ^ 52 * 2 ^ e = 2 ^ (52 + e) := by rw [zpow_add₀ two_ne_zero]; norm_num
        _ ≤ 2 ^ Int.log 2 q := zpow_le_zpow_right₀ one_le_two (by omega)
        _ ≤ q := hlow
    · exact .inr (hlog.trans hleast)

namespace Rounded

variable {q : ℚ} {e : ℤ} {m : ℕ}

theorem multiple_le (h : Rounded q e m) : m ≤ 2 ^ 53 := by
  have hquotient : q / 2 ^ e < 2 ^ 53 := (div_lt_iff₀ (by positivity)).2 h.lt
  have hnear := (abs_le.1 h.near).2
  by_contra hlarge
  have hcast : (2 : ℚ) ^ 53 + 1 ≤ m := by exact_mod_cast not_le.1 hlarge
  linarith

theorem le_multiple (h : Rounded q e m) : 2 ^ 52 ≤ m ∨ e = -1074 := by
  refine h.full.imp_left fun hfull => ?_
  have hquotient : 2 ^ 52 ≤ q / 2 ^ e := (le_div_iff₀ (by positivity)).2 hfull
  have hnear := (abs_le.1 h.near).1
  by_contra hsmall
  have hcast : (m : ℚ) + 1 ≤ 2 ^ 52 := by exact_mod_cast not_le.1 hsmall
  linarith

theorem abs_sub_le (h : Rounded q e m) : |q - m * 2 ^ e| ≤ 2 ^ e / 2 := by
  have hpos : (0 : ℚ) < 2 ^ e := by positivity
  calc |q - m * 2 ^ e| = |(m : ℚ) - q / 2 ^ e| * 2 ^ e := by
        rw [← abs_of_pos hpos, ← abs_mul, abs_of_pos hpos, sub_mul, div_mul_cancel₀ _ hpos.ne',
          abs_sub_comm]
    _ ≤ 1 / 2 * 2 ^ e := by gcongr; exact h.near
    _ = 2 ^ e / 2 := by ring

/-- What has a multiple of the format is a value of the format. -/
theorem ofMultiple? {negative : Bool} {x : Dyadic} (h : Rounded q e m)
    (hx : Dyadic.ofMultiple? negative m e = some x) :
    x.IsDouble ∧ x.value = m * 2 ^ e ∧ e ≤ x.exponent ∧ x.negative = negative := by
  have hlow := h.le_exponent
  rw [Dyadic.ofMultiple?] at hx
  split_ifs at hx with hm he he
  · cases hx
    exact ⟨⟨hm, hlow, he, h.le_multiple⟩, value_eq _, le_rfl, rfl⟩
  · cases hx
    obtain rfl : m = 2 ^ 53 := le_antisymm h.multiple_le (not_lt.1 hm)
    refine ⟨⟨by norm_num, by simpa using by omega, he, .inl (by norm_num)⟩, ?_, by simp, rfl⟩
    rw [value_eq, zpow_add₀ two_ne_zero]
    norm_num
    ring

/-- No integer multiple is nearer. -/
theorem abs_sub_le_abs_sub (h : Rounded q e m) (k : ℕ) :
    |q - m * 2 ^ e| ≤ |q - k * 2 ^ e| := by
  by_cases hk : k = m
  · rw [hk]
  · have hpos : (0 : ℚ) < 2 ^ e := by positivity
    have happart : (1 : ℚ) ≤ |(k : ℚ) - m| := by
      have hne : (k : ℤ) - m ≠ 0 := by omega
      exact_mod_cast Int.one_le_abs hne
    have htriangle : |(k : ℚ) * 2 ^ e - m * 2 ^ e| ≤ |q - k * 2 ^ e| + |q - m * 2 ^ e| := by
      rw [abs_sub_comm q (k * 2 ^ e)]
      calc |(k : ℚ) * 2 ^ e - m * 2 ^ e| = |(k * 2 ^ e - q) + (q - m * 2 ^ e)| := by ring_nf
        _ ≤ _ := abs_add_le _ _
    rw [← sub_mul, abs_mul, abs_of_pos hpos] at htriangle
    have hhalf := h.abs_sub_le
    nlinarith

/-- A number has one exponent only. -/
theorem exponent_eq {f : ℤ} (h : Rounded q e m) (hlt : q < 2 ^ 53 * 2 ^ f)
    (hlow : -1074 ≤ f) (hfull : 2 ^ 52 * 2 ^ f ≤ q ∨ f = -1074) : e = f := by
  have hstep : ∀ {a b : ℤ}, a < b → (2 : ℚ) ^ 53 * 2 ^ a ≤ 2 ^ 52 * 2 ^ b := by
    intro a b hab
    calc (2 : ℚ) ^ 53 * 2 ^ a = 2 ^ 52 * 2 ^ (a + 1) := by
          rw [zpow_add₀ two_ne_zero]
          ring
      _ ≤ 2 ^ 52 * 2 ^ b := by
          gcongr
          · exact one_le_two
          · omega
  rcases lt_trichotomy e f with hless | heq | hmore
  · have hle := hstep hless
    rcases hfull with hfull | hleast
    · linarith [h.lt]
    · have := h.le_exponent
      omega
  · exact heq
  · have hle := hstep hmore
    rcases h.full with hfull | hleast
    · linarith
    · omega

end Rounded

variable {negative : Bool} {q : ℚ} {x : Dyadic}

theorem nearest?_zero (format : BinaryFormat) (negative : Bool) :
    nearest? format negative 0 = some ⟨negative, 0, format.minExponent⟩ := rfl

/-- A number rounds to a value of the format, and within half the power of two at its exponent. -/
theorem nearest?_spec (hq : 0 ≤ q) (h : nearest? .double negative q = some x) :
    x.IsDouble ∧ |q - x.value| ≤ 2 ^ x.exponent / 2 ∧ x.negative = negative := by
  rcases hq.eq_or_lt with rfl | hpos
  · rw [nearest?_zero] at h
    cases h
    refine ⟨⟨by norm_num, le_rfl, by norm_num [BinaryFormat.double], .inr rfl⟩, ?_, rfl⟩
    rw [value_eq, Nat.cast_zero, zero_mul, sub_zero, abs_zero]
    positivity
  · obtain ⟨e, m, hrounded, hnearest⟩ := exists_rounded negative hpos
    obtain ⟨hdouble, hvalue, hexponent, hsign⟩ := hrounded.ofMultiple? (hnearest ▸ h)
    refine ⟨hdouble, ?_, hsign⟩
    calc |q - x.value| ≤ 2 ^ e / 2 := by
          rw [hvalue]
          exact hrounded.abs_sub_le
      _ ≤ 2 ^ x.exponent / 2 := by
          gcongr
          exact one_le_two

/-- A value of the format rounds to itself. -/
theorem IsDouble.nearest?_value (h : x.IsDouble) :
    nearest? .double x.negative x.value = some x := by
  obtain ⟨negative, s, f⟩ := x
  obtain ⟨hlt, hlow, hhigh, hfull⟩ := h
  simp only at hlt hlow hhigh hfull
  rcases Nat.eq_zero_or_pos s with rfl | hs
  · obtain rfl : f = -1074 := by simpa using hfull
    rw [value_eq, Nat.cast_zero, zero_mul]
    rfl
  · have hpos : (0 : ℚ) < 2 ^ f := by positivity
    rw [value_eq]
    obtain ⟨e, m, hrounded, hnearest⟩ := exists_rounded negative (q := s * 2 ^ f) (by positivity)
    obtain rfl : e = f := by
      refine hrounded.exponent_eq ?_ hlow (hfull.imp_left fun hfull => ?_)
      · gcongr
        exact_mod_cast hlt
      · gcongr
        exact_mod_cast hfull
    obtain rfl : m = s := by
      have hnear := hrounded.near
      rw [mul_div_cancel_right₀ _ hpos.ne', abs_le] at hnear
      have hle : (m : ℚ) < s + 1 := by linarith
      have hge : (s : ℚ) < m + 1 := by linarith
      norm_cast at hle hge
      omega
    rw [hnearest, ofMultiple?, if_pos hlt, if_pos hhigh]

/-- No value of the format is nearer to a number than the one that it rounds to. -/
theorem abs_sub_value_le (hq : 0 ≤ q) (h : nearest? .double negative q = some x) {y : Dyadic}
    (hy : y.IsDouble) : |q - x.value| ≤ |q - y.value| := by
  rcases hq.eq_or_lt with rfl | hpos
  · rw [nearest?_zero] at h
    cases h
    rw [value_eq, Nat.cast_zero, zero_mul, sub_zero, abs_zero]
    exact abs_nonneg _
  · obtain ⟨e, m, hrounded, hnearest⟩ := exists_rounded negative hpos
    obtain ⟨-, hvalue, -, -⟩ := hrounded.ofMultiple? (hnearest ▸ h)
    rw [hvalue]
    rcases le_or_gt e y.exponent with hle | hlt
    · obtain ⟨k, hk⟩ := exists_mul_zpow_eq two_ne_zero y.significand hle
      rw [Nat.cast_ofNat] at hk
      rw [value_eq y, hk]
      exact hrounded.abs_sub_le_abs_sub k
    · -- a value with a smaller exponent lies below the least value with this one
      have hfull : 2 ^ 52 * 2 ^ e ≤ q := hrounded.full.resolve_right fun hleast => by
        have := hy.le_exponent
        omega
      have hbelow : y.value ≤ 2 ^ 52 * 2 ^ e := by
        have hsignificand : (y.significand : ℚ) ≤ 2 ^ 53 := by exact_mod_cast hy.significand_lt.le
        calc y.value = y.significand * 2 ^ y.exponent := value_eq y
          _ ≤ 2 ^ 53 * 2 ^ (e - 1) := by
              gcongr
              · exact one_le_two
              · omega
          _ = 2 ^ 52 * 2 ^ e := by
              rw [zpow_sub₀ two_ne_zero]
              ring
      calc |q - m * 2 ^ e| ≤ |q - (2 ^ 52 : ℕ) * 2 ^ e| := hrounded.abs_sub_le_abs_sub _
        _ = q - 2 ^ 52 * 2 ^ e := by
            push_cast
            exact abs_of_nonneg (by linarith)
        _ ≤ q - y.value := by linarith
        _ ≤ |q - y.value| := le_abs_self _

/-! ## Small and large numbers -/

theorem Rounded.exponent_lt {e : ℤ} {m : ℕ} (h : Rounded q e m) {f : ℤ}
    (hq : q < 2 ^ 52 * 2 ^ f) : e < f ∨ e = -1074 := by
  refine h.full.imp_left fun hfull => ?_
  have hpow : (2 : ℚ) ^ e < 2 ^ f := lt_of_mul_lt_mul_left (hfull.trans_lt hq) (by positivity)
  exact (zpow_lt_zpow_iff_right₀ one_lt_two).1 hpow

/-- A number up to the greatest value of the format rounds to a value. -/
theorem exists_nearest? (negative : Bool) (hq : 0 ≤ q) (hle : q ≤ (2 ^ 53 - 1) * 2 ^ (971 : ℤ)) :
    ∃ x, nearest? .double negative q = some x := by
  rcases hq.eq_or_lt with rfl | hpos
  · exact ⟨_, nearest?_zero _ _⟩
  · obtain ⟨e, m, hrounded, hnearest⟩ := exists_rounded negative hpos
    have hscale : (0 : ℚ) < 2 ^ (971 : ℤ) := by positivity
    have hbound : q < 2 ^ 52 * 2 ^ (972 : ℤ) := by
      calc q ≤ (2 ^ 53 - 1) * 2 ^ (971 : ℤ) := hle
        _ < 2 ^ 53 * 2 ^ (971 : ℤ) := by
            gcongr
            exact sub_one_lt _
        _ = 2 ^ 52 * 2 ^ (971 + 1 : ℤ) := by
            rw [zpow_add_one₀ two_ne_zero]
            ring
        _ = 2 ^ 52 * 2 ^ (972 : ℤ) := by norm_num
    have he : e ≤ 971 := by
      have hlt := hrounded.exponent_lt hbound
      omega
    rw [hnearest, ofMultiple?]
    split_ifs with hm he'
    · exact ⟨_, rfl⟩
    · exact ⟨_, rfl⟩
    · -- at the greatest exponent the multiple is not rounded up to one bit more
      exfalso
      obtain rfl : e = 971 := by omega
      have hmultiple : (2 : ℚ) ^ 53 ≤ m := by exact_mod_cast not_lt.1 hm
      have hquotient : q / 2 ^ (971 : ℤ) ≤ 2 ^ 53 - 1 := (div_le_iff₀ hscale).2 hle
      have hnear := (abs_le.1 hrounded.near).2
      linarith

theorem nearest?_eq_none (negative : Bool) (h : 2 ^ (1024 : ℤ) ≤ q) :
    nearest? .double negative q = none := by
  have hpos : 0 < q := lt_of_lt_of_le (by positivity) h
  obtain ⟨e, m, hrounded, hnearest⟩ := exists_rounded negative hpos
  have hpow : (2 : ℚ) ^ (1024 : ℤ) < 2 ^ (53 + e) := by
    rw [zpow_add₀ two_ne_zero]
    exact h.trans_lt (by exact_mod_cast hrounded.lt)
  have he : 1024 < 53 + e := (zpow_lt_zpow_iff_right₀ one_lt_two).1 hpow
  rw [hnearest, ofMultiple?]
  split_ifs with hm he' he'
  · omega
  · rfl
  · omega
  · rfl

theorem nearest?_eq_zero (negative : Bool) (hq : 0 ≤ q) (h : q < 2 ^ (-1075 : ℤ)) :
    nearest? .double negative q = some ⟨negative, 0, -1074⟩ := by
  rcases hq.eq_or_lt with rfl | hpos
  · exact nearest?_zero _ _
  · obtain ⟨e, m, hrounded, hnearest⟩ := exists_rounded negative hpos
    have hsmall : (2 : ℚ) ^ (-1074 : ℤ) = 2 * 2 ^ (-1075 : ℤ) := by
      rw [← zpow_one_add₀ two_ne_zero]
      norm_num
    obtain rfl : e = -1074 := by
      have hlow := hrounded.le_exponent
      have hlt := hrounded.exponent_lt (f := -1074) (by linarith)
      omega
    obtain rfl : m = 0 := by
      have hquotient : q / 2 ^ (-1074 : ℤ) < 1 / 2 := by
        rw [div_lt_iff₀ (by positivity)]
        linarith
      have hnear := (abs_le.1 hrounded.near).2
      have hlt : (m : ℚ) < 1 := by linarith
      norm_cast at hlt
      omega
    rw [hnearest, ofMultiple?, if_pos (by norm_num), if_pos (by norm_num)]

/-- The least positive value of full precision. -/
def leastNormal : ℚ := 2 ^ (-1022 : ℤ)

theorem leastNormal_eq : leastNormal = 2 ^ 52 * 2 ^ (-1074 : ℤ) := by
  rw [leastNormal, ← zpow_natCast, ← zpow_add₀ two_ne_zero]
  norm_num

theorem leastNormal_pos : 0 < leastNormal := by
  rw [leastNormal]
  positivity

theorem two_zpow_le_max {e : ℤ} (h : 2 ^ 52 * 2 ^ e ≤ q ∨ e = -1074) :
    2 ^ 52 * 2 ^ e ≤ max q leastNormal := by
  rcases h with hfull | rfl
  · exact le_max_of_le_left hfull
  · exact le_max_of_le_right leastNormal_eq.ge

theorem IsDouble.full_value (h : x.IsDouble) :
    2 ^ 52 * 2 ^ x.exponent ≤ x.value ∨ x.exponent = -1074 := by
  refine h.full.imp_left fun hfull => ?_
  rw [value_eq]
  gcongr
  exact_mod_cast hfull

theorem IsDouble.two_zpow_exponent_le (h : x.IsDouble) :
    2 ^ 52 * 2 ^ x.exponent ≤ max x.value leastNormal :=
  two_zpow_le_max h.full_value

/-- The error is relative to the number, down to the least value of full precision. -/
theorem abs_sub_value_le_max (hq : 0 ≤ q) (h : nearest? .double negative q = some x) :
    |q - x.value| ≤ max q leastNormal / 2 ^ 53 := by
  rcases hq.eq_or_lt with rfl | hpos
  · rw [nearest?_zero] at h
    cases h
    rw [value_eq, Nat.cast_zero, zero_mul, sub_zero, abs_zero, max_eq_right leastNormal_pos.le]
    exact div_nonneg leastNormal_pos.le (by positivity)
  · obtain ⟨e, m, hrounded, hnearest⟩ := exists_rounded negative hpos
    obtain ⟨-, hvalue, -, -⟩ := hrounded.ofMultiple? (hnearest ▸ h)
    rw [hvalue]
    calc |q - m * 2 ^ e| ≤ 2 ^ e / 2 := hrounded.abs_sub_le
      _ = 2 ^ 52 * 2 ^ e / 2 ^ 53 := by ring
      _ ≤ max q leastNormal / 2 ^ 53 := by
          gcongr
          exact two_zpow_le_max hrounded.full

theorem abs_sub_value_le_of_le {b : ℚ} (hq : 0 ≤ q) (h : nearest? .double negative q = some x)
    (hle : q ≤ b) (hnormal : leastNormal ≤ b) :
    |q - x.value| ≤ b / 2 ^ 53 ∧ x.value ≤ b * (1 + 1 / 2 ^ 53) := by
  have herror : |q - x.value| ≤ b / 2 ^ 53 := by
    calc |q - x.value| ≤ max q leastNormal / 2 ^ 53 := abs_sub_value_le_max hq h
      _ ≤ b / 2 ^ 53 := by
          gcongr
          exact max_le hle hnormal
  exact ⟨herror, by linarith [(abs_le.1 herror).1]⟩

theorem leastNormal_le_value (h : nearest? .double negative q = some x) (hq : leastNormal ≤ q) :
    leastNormal ≤ x.value := by
  have hleast : (⟨false, 2 ^ 52, -1074⟩ : Dyadic).IsDouble :=
    ⟨by norm_num, le_rfl, by norm_num, .inl le_rfl⟩
  have hvalue : (⟨false, 2 ^ 52, -1074⟩ : Dyadic).value = leastNormal := by
    simp only [value_eq, Nat.cast_pow, Nat.cast_ofNat, leastNormal_eq]
  have hnearer := abs_sub_value_le (leastNormal_pos.le.trans hq) h hleast
  rw [hvalue, abs_of_nonneg (sub_nonneg.2 hq)] at hnearer
  exact (sub_le_sub_iff_left q).1 (abs_le.1 hnearer).2

theorem value_le_two_mul (hq : 0 ≤ q) (h : nearest? .double negative q = some x) :
    x.value ≤ 2 * q := by
  have hzero : (⟨false, 0, -1074⟩ : Dyadic).IsDouble :=
    ⟨by norm_num, le_rfl, by norm_num, .inr rfl⟩
  have hnearer := abs_sub_value_le hq h hzero
  rw [value_eq ⟨false, 0, -1074⟩, Nat.cast_zero, zero_mul, sub_zero, abs_of_nonneg hq] at hnearer
  linarith [(abs_le.1 hnearer).1]

theorem IsDouble.two_zpow_exponent_le_one (h : x.IsDouble) (hlt : x.value < 2 ^ 53) :
    (2 : ℚ) ^ x.exponent ≤ 1 := by
  apply zpow_le_one_of_nonpos₀ one_le_two
  rcases h.full_value with hfull | hleast
  · have hpow : (2 : ℚ) ^ 52 * 2 ^ x.exponent < 2 ^ 52 * 2 ^ (1 : ℤ) := by
      calc (2 : ℚ) ^ 52 * 2 ^ x.exponent ≤ x.value := hfull
        _ < 2 ^ 53 := hlt
        _ = 2 ^ 52 * 2 ^ (1 : ℤ) := by norm_num
    have hexponent := lt_of_mul_lt_mul_left hpow (by positivity)
    have hlt_one := (zpow_lt_zpow_iff_right₀ one_lt_two).1 hexponent
    omega
  · omega

/-- An integer below `2 ^ 53` is a value of the format. -/
theorem exists_nearest?_natCast (negative : Bool) {n : ℕ} (hn : n < 2 ^ 53) :
    ∃ x, nearest? .double negative n = some x ∧ x.value = n := by
  rcases Nat.eq_zero_or_pos n with rfl | hpos
  · refine ⟨_, nearest?_zero _ _, ?_⟩
    rw [value_eq, Nat.cast_zero, zero_mul]
  · have hlt : (n : ℚ) < 2 ^ 53 := by exact_mod_cast hn
    obtain ⟨x, hx⟩ := exists_nearest? negative (Nat.cast_nonneg (α := ℚ) n) (by
      calc (n : ℚ) ≤ (2 ^ 53 - 1) * 1 := by
            rw [mul_one, le_sub_iff_add_le]
            exact_mod_cast hn
        _ ≤ (2 ^ 53 - 1) * 2 ^ (971 : ℤ) := by
            gcongr
            exact one_le_zpow₀ one_le_two (by norm_num))
    obtain ⟨e, m, hrounded, hnearest⟩ := exists_rounded negative (Nat.cast_pos.2 hpos)
    obtain ⟨-, hvalue, -, -⟩ := hrounded.ofMultiple? (hnearest ▸ hx)
    have he : e ≤ 0 := by
      have hexponent := hrounded.exponent_lt (f := 1) (hlt.trans_eq (by norm_num))
      omega
    -- the integer is itself a multiple of the power of two
    obtain ⟨k, hk⟩ := exists_mul_zpow_eq two_ne_zero n he
    rw [zpow_zero, mul_one, Nat.cast_ofNat] at hk
    have hnearer := hrounded.abs_sub_le_abs_sub k
    rw [← hk, sub_self, abs_zero, ← hvalue, abs_nonpos_iff, sub_eq_zero] at hnearer
    exact ⟨x, hx, hnearer.symm⟩

theorem exists_isDouble_natCast {n : ℕ} (hn : n < 2 ^ 53) :
    ∃ x : Dyadic, x.IsDouble ∧ x.value = n := by
  obtain ⟨x, hx, hvalue⟩ := exists_nearest?_natCast false hn
  exact ⟨x, (nearest?_spec n.cast_nonneg hx).1, hvalue⟩

end Dyadic

end LotSearch
