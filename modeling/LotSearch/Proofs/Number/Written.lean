import LotSearch.Proofs.Number.Numeral
import LotSearch.Proofs.Number.Shortest
import LotSearch.Proofs.Text.Delimited

/-!
# The value of a written amount

Digits with a point among them stand for an exact value.  An amount is read as the floating-point
value nearest to it, and it is written as a numeral that is read as the amount again.  A number
that rounds to the amount is the number that is written when it is short enough: at most fifteen
digits, or an integer below `2 ^ 53`.
-/

namespace LotSearch

namespace Text

/-! ## Digits around a point -/

theorem digitsValue_append (s t : Text) :
    digitsValue (s ++ t) = digitsValue s * 10 ^ t.length + digitsValue t := by
  induction t using List.reverseRecOn with
  | nil => simp
  | append_singleton t c ih =>
      rw [← List.append_assoc, digitsValue_append_singleton, ih, digitsValue_append_singleton,
        List.length_append, List.length_singleton, pow_succ]
      ring

theorem digitsValue_ofNat (n : Nat) : digitsValue (ofNat n) = n := Nat.ofDigitChars_ten_toDigits

theorem digitsValue_zeros (n : Nat) : digitsValue (List.replicate n '0') = 0 := by
  induction n with
  | zero => rfl
  | succ n ih =>
      rw [List.replicate_succ', digitsValue_append_singleton, ih]
      rfl

/-- The exact value of digits with perhaps a point among them. -/
def decimalValue (t : Text) : ℚ :=
  match t.dropWhile isAsciiDigit with
  | '.' :: fraction => digitsValue (t.takeWhile isAsciiDigit ++ fraction) / 10 ^ fraction.length
  | _ => digitsValue (t.takeWhile isAsciiDigit)

theorem decimalValue_nonneg (t : Text) : 0 ≤ decimalValue t := by
  rw [decimalValue]
  split <;> positivity

theorem decimalValue_whole {t : Text} (h : ∀ c ∈ t, isAsciiDigit c = true) :
    decimalValue t = digitsValue t := by
  rw [decimalValue, List.dropWhile_eq_nil_iff.2 h, List.takeWhile_eq_self_iff.2 h]

theorem decimalValue_point {whole : Text} (h : ∀ c ∈ whole, isAsciiDigit c = true)
    (fraction : Text) : decimalValue (whole ++ '.' :: fraction) =
      digitsValue (whole ++ fraction) / 10 ^ fraction.length := by
  have hpoint : ('.' :: fraction).head?.any isAsciiDigit = false := rfl
  rw [decimalValue, dropWhile_append_of_class h hpoint, takeWhile_append_of_class h hpoint]
  rfl

theorem decimalValue_positionalText {digits : Text} (h : ∀ c ∈ digits, isAsciiDigit c = true)
    (power : ℤ) : decimalValue (Layout.positionalText [] digits power) =
      digitsValue digits * 10 ^ (power - digits.length + 1) := by
  have hten : (10 : ℚ) ≠ 0 := by norm_num
  simp only [Layout.positionalText]
  split_ifs with hpower hlength
  · have hzero : ∀ c ∈ "0".toList, isAsciiDigit c = true := forall_mem_of_all (by decide)
    have happend : "0.".toList ++ List.replicate (-power - 1).toNat '0' ++ digits =
        "0".toList ++ '.' :: (List.replicate (-power - 1).toNat '0' ++ digits) := by
      simp
    have hvalue : digitsValue "0".toList = 0 := by decide
    rw [happend, decimalValue_point hzero, digitsValue_append, digitsValue_append,
      digitsValue_zeros, hvalue, zero_mul, zero_mul, zero_add, zero_add, div_eq_mul_inv,
      ← zpow_natCast, ← zpow_neg, List.length_append, List.length_replicate]
    congr 2
    omega
  · rw [List.append_nil, decimalValue_whole, digitsValue_append, digitsValue_zeros, add_zero]
    · push_cast
      rw [List.length_replicate, ← zpow_natCast]
      congr 2
      omega
    · intro c hc
      rcases List.mem_append.1 hc with hdigit | hzero
      · exact h c hdigit
      · exact isAsciiDigit_of_mem_zeros hzero
  · have htake : ∀ c ∈ digits.take (power.toNat + 1), isAsciiDigit c = true := fun c hc =>
      h c (List.mem_of_mem_take hc)
    rw [decimalValue_point htake, List.take_append_drop, div_eq_mul_inv, ← zpow_natCast, ← zpow_neg,
      List.length_drop]
    congr 2
    omega

/-- Without a power of ten, a numeral is read as the value of its digits. -/
theorem value_of_numeral? {negative : Bool} {t : Text} {d : Decimal}
    (h : numeral? negative t = some d) (hplain : ∀ c ∈ ['e', 'E'], c ∉ t) :
    d.value = decimalValue t := by
  have hnone : ∀ {rest : Text} {power : ℤ}, rest <:+ t → powerOfTen? rest = some power →
      rest = [] ∧ power = 0 := by
    intro rest power hrest hread
    cases rest with
    | nil =>
        cases hread
        exact ⟨rfl, rfl⟩
    | cons c rest =>
        have hc : ¬ (c = 'e' ∨ c = 'E') := fun hc =>
          hplain c (by simpa using hc) (hrest.subset List.mem_cons_self)
        simp [powerOfTen?, hc] at hread
  have hrest : t.dropWhile isAsciiDigit <:+ t := List.dropWhile_suffix _
  simp only [numeral?] at h
  split at h
  · rename_i fraction hpoint
    split_ifs at h
    obtain ⟨power, hread, rfl⟩ := Option.map_eq_some_iff.1 h
    have hsuffix := (List.dropWhile_suffix (l := fraction) isAsciiDigit).trans
      ((List.suffix_cons '.' fraction).trans (hpoint ▸ hrest))
    obtain ⟨hall, rfl⟩ := hnone hsuffix hread
    have hfraction : fraction.takeWhile isAsciiDigit = fraction :=
      List.takeWhile_eq_self_iff.2 (List.dropWhile_eq_nil_iff.1 hall)
    rw [Decimal.ofParts, Decimal.value, hfraction, decimalValue, hpoint, zero_sub, zpow_neg,
      zpow_natCast, ← div_eq_mul_inv]
    rfl
  · split_ifs at h
    obtain ⟨power, hread, rfl⟩ := Option.map_eq_some_iff.1 h
    obtain ⟨hall, rfl⟩ := hnone hrest hread
    rw [Decimal.ofParts, Decimal.value, decimalValue, hall, List.append_nil]
    simp

end Text

namespace Amount

open Text LotSearch.Dyadic

variable {x v : Dyadic} {n : ℚ}

/-! ## Reading -/

/-- Digits are read as the floating-point value nearest to them. -/
theorem nearest?_of_read? {digits : Text} (h : read? digits = some v)
    (hplain : ∀ c ∈ ['-', '+', 'e', 'E'], c ∉ digits) :
    nearest? .double false (decimalValue (digits.filter (· != ','))) = some v := by
  have hkept : ∀ c ∈ ['-', '+', 'e', 'E'], c ∉ digits.filter (· != ',') := fun c hc hmem =>
    hplain c hc (List.mem_filter.1 hmem).1
  obtain ⟨reading, hreading, hfinite⟩ := Option.bind_eq_some_iff.1 h
  cases reading with
  | infinite negative => cases hfinite
  | notANumber => cases hfinite
  | finite value =>
      cases hfinite
      have hunsigned : unsignedFloat? .double false (digits.filter (· != ',')) =
          some (.finite v) := by
        unfold float? at hreading
        split at hreading
        · rename_i rest heq
          exact absurd (heq ▸ List.mem_cons_self) (hkept '-' (by simp))
        · rename_i rest heq
          exact absurd (heq ▸ List.mem_cons_self) (hkept '+' (by simp))
        · exact hreading
      simp only [unsignedFloat?] at hunsigned
      split_ifs at hunsigned
      · cases hunsigned
      · cases hunsigned
      · obtain ⟨d, hd, hvalue⟩ := Option.map_eq_some_iff.1 hunsigned
        split at hvalue
        · rename_i value hdyadic
          cases hvalue
          rw [Decimal.toDyadic?_eq, negative_numeral? hd] at hdyadic
          rw [← value_of_numeral? hd fun c hc => hkept c (by simp at hc ⊢; tauto)]
          exact hdyadic
        · cases hvalue

theorem inUnit_eq_nearest? (unit : Option Text) (v : Dyadic) :
    inUnit unit v = nearest? .double v.negative (v.value * multiplier unit) := by
  rw [inUnit, scale?, ofQuotient?_eq_nearest? _ _ _ v.den_pos, value, Nat.cast_mul,
    mul_div_right_comm]

/-! ## Writing -/

theorem decimalValue_writeDecimal {d : Decimal} (h : d.negative = false) :
    decimalValue (layout.writeDecimal d) = d.value := by
  have hpositional : ∀ power, layout.positional power = true := fun _ => rfl
  have hdigits : ∀ c ∈ ofNat d.digits, isAsciiDigit c = true := fun _ =>
    isAsciiDigit_of_mem_ofNat
  simp only [Layout.writeDecimal, h, hpositional, if_true, Bool.false_eq_true, if_false,
    List.nil_append]
  rw [show layout.afterInteger = [] from rfl, decimalValue_positionalText hdigits,
    digitsValue_ofNat, Decimal.value]
  split_ifs with hzero
  · rw [hzero, Nat.cast_zero, zero_mul, zero_mul]
  · congr 2
    omega

/-- An amount is written as the integer that it is, when it is not too large, and else with its
shortest digits. -/
theorem decimalValue_write (h : x.negative = false) :
    (∃ n : ℕ, n < exactBound ∧ x.value = n ∧ decimalValue (write (some x)) = x.value) ∨
      decimalValue (write (some x)) = (x.shortest .double layout.tie).value := by
  simp only [write]
  split_ifs with hinteger hsign
  · simp [h] at hsign
  · simp only [Bool.and_eq_true, decide_eq_true_eq] at hinteger
    obtain ⟨hdivides, hbound⟩ := hinteger
    have hvalue : x.value = (x.num / x.den : ℕ) := by
      have hdvd : x.den ∣ x.num := Nat.dvd_of_mod_eq_zero (by simpa [isInteger] using hdivides)
      have hden : (x.den : ℚ) ≠ 0 := by exact_mod_cast x.den_pos.ne'
      rw [value, Nat.cast_div hdvd hden]
    refine .inl ⟨_, hbound, hvalue, ?_⟩
    rw [decimalValue_whole fun _ => isAsciiDigit_of_mem_ofNat, digitsValue_ofNat, hvalue]
  · right
    rw [Layout.write, decimalValue_writeDecimal, Decimal.value_normal]
    rw [Decimal.negative_normal, negative_shortest, h]

/-- What is written for an amount is read as the amount. -/
theorem nearest?_write (hx : x.IsDouble) (h : x.negative = false) :
    nearest? .double false (decimalValue (write (some x))) = some x := by
  rw [← h]
  rcases decimalValue_write h with ⟨-, -, -, hvalue⟩ | hvalue
  · rw [hvalue]
    exact hx.nearest?_value
  · rw [hvalue]
    exact hx.nearest?_shortest _

/-- Where the values that are read alike lie closer together than its last place, a decimal is
written as it is. -/
theorem decimalValue_write_of_near {k : ℕ} {e : ℤ} (h : x.negative = false)
    (hk : nearest? .double false (k * 10 ^ e) = some x)
    (hnear : |(k : ℚ) * 10 ^ e - x.value| + 2 ^ x.exponent / 2 < 10 ^ e)
    (hle : e ≤ Int.log 10 x.value) (hlog : Int.log 10 x.value ≤ e + 16)
    (hzero : x.isZero = false) :
    decimalValue (write (some x)) = k * 10 ^ e := by
  obtain ⟨hdouble, hclose, -⟩ := nearest?_spec (by positivity) hk
  rcases decimalValue_write h with ⟨n, hbound, hinteger, hvalue⟩ | hvalue
  · rw [hvalue, hinteger]
    rw [hinteger] at hnear hclose
    have hulp : (2 : ℚ) ^ x.exponent ≤ 1 := by
      apply hdouble.two_zpow_exponent_le_one
      rw [hinteger]
      exact_mod_cast hbound.trans (by norm_num [exactBound])
    -- both numbers are multiples of the last place, or of one where that place is larger
    rcases le_total e 0 with hfine | hcoarse
    · obtain ⟨m, hm⟩ := exists_mul_zpow_eq (b := 10) (by norm_num) n hfine
      rw [zpow_zero, mul_one, Nat.cast_ofNat] at hm
      rw [hm] at hnear ⊢
      have hpos : (0 : ℚ) < 2 ^ x.exponent := by positivity
      have hsame : k = m :=
        eq_of_abs_sub_lt (p := 10 ^ e) (by positivity) (by linarith)
      rw [hsame]
    · obtain ⟨m, hm⟩ := exists_mul_zpow_eq (b := 10) (by norm_num) k hcoarse
      rw [zpow_zero, Nat.cast_ofNat] at hm
      rw [hm, ← mul_one (n : ℚ)] at hclose
      rw [hm, eq_of_abs_sub_lt one_pos (by linarith : |(m : ℚ) * 1 - n * 1| < 1), mul_one]
  · rw [hvalue]
    exact value_shortest (by rwa [h]) hnear hle hlog hzero _

theorem decimalValue_write_zero (hx : nearest? .double false 0 = some x) :
    decimalValue (write (some x)) = 0 := by
  rw [nearest?_zero] at hx
  cases hx
  rcases decimalValue_write (x := ⟨false, 0, _⟩) rfl with ⟨-, -, -, hvalue⟩ | hvalue
  · rw [hvalue, value_eq, Nat.cast_zero, zero_mul]
  · rw [hvalue, value_shortest_of_isZero rfl]

/-- An integer below `2 ^ 53` is written as it is. -/
theorem decimalValue_write_natCast {k : ℕ} (hlt : k < 2 ^ 53)
    (hk : nearest? .double false k = some x) : decimalValue (write (some x)) = k := by
  rcases Nat.eq_zero_or_pos k with rfl | hpos
  · rw [Nat.cast_zero] at hk ⊢
    exact decimalValue_write_zero hk
  obtain ⟨y, hy, hvalue⟩ := exists_nearest?_natCast false hlt
  obtain rfl : y = x := Option.some.inj (hy.symm.trans hk)
  obtain ⟨hdouble, -, hsign⟩ := nearest?_spec k.cast_nonneg hk
  have hbase : 1 < 10 := by norm_num
  have hcast : (0 : ℚ) < k := Nat.cast_pos.2 hpos
  have hulp : (2 : ℚ) ^ y.exponent ≤ 1 := by
    apply hdouble.two_zpow_exponent_le_one
    rw [hvalue]
    exact_mod_cast hlt
  have hwritten := decimalValue_write_of_near (e := 0) (k := k) hsign
  rw [zpow_zero, mul_one, hvalue, sub_self, abs_zero, zero_add] at hwritten
  refine hwritten hk (by linarith) ?_ ?_ ?_
  · rw [← Int.zpow_le_iff_le_log hbase hcast, zpow_zero]
    exact_mod_cast hpos
  · rw [← Int.lt_add_one_iff, ← Int.lt_zpow_iff_log_lt hbase hcast]
    calc (k : ℚ) < 2 ^ 53 := by exact_mod_cast hlt
      _ ≤ _ := by norm_num
  · refine eq_false_of_ne_true fun hzero => hcast.ne ?_
    rw [← hvalue, value_of_isZero hzero]

/-- A decimal of at most fifteen digits is written as it is. -/
theorem decimalValue_write_decimal {k : ℕ} {exponent : ℤ} (hdigits : k < 10 ^ 15)
    (hnormal : leastNormal ≤ k * 10 ^ exponent)
    (hk : nearest? .double false (k * 10 ^ exponent) = some x) :
    decimalValue (write (some x)) = k * 10 ^ exponent := by
  have hten : (10 : ℚ) ≠ 0 := by norm_num
  have hbase : 1 < 10 := by norm_num
  have hnonneg : (0 : ℚ) ≤ k * 10 ^ exponent := by positivity
  obtain ⟨hdouble, hclose, hsign⟩ := nearest?_spec hnonneg hk
  have hnormal' := leastNormal_le_value hk hnormal
  have hpos : 0 < x.value := leastNormal_pos.trans_le hnormal'
  have hulp := hdouble.two_zpow_exponent_le
  rw [max_eq_left hnormal'] at hulp
  have hle := value_le_two_mul hnonneg hk
  have hlt : (k : ℚ) * 10 ^ exponent < 10 ^ 15 * 10 ^ exponent := by
    gcongr
    exact_mod_cast hdigits
  have hzero : x.isZero = false := eq_false_of_ne_true fun h => hpos.ne' (value_of_isZero h)
  have hpow : (0 : ℚ) < 10 ^ exponent := by positivity
  rcases le_or_gt exponent (Int.log 10 x.value) with hfine | hcoarse
  · refine decimalValue_write_of_near hsign hk (by linarith) hfine ?_ hzero
    rw [← Int.lt_add_one_iff, ← Int.lt_zpow_iff_log_lt hbase hpos]
    calc x.value < 10 ^ 17 * 10 ^ exponent := by linarith
      _ = ((10 : ℕ) : ℚ) ^ (exponent + 16 + 1) := by
          rw [Nat.cast_ofNat, add_assoc, add_comm, zpow_add₀ hten]
          norm_num
  · -- the value lies just below a power of ten, and has one digit less before the point
    obtain ⟨n, hn⟩ := exists_mul_zpow_eq (b := 10) (by norm_num) k hcoarse.le
    rw [Nat.cast_ofNat] at hn
    have hhigh := Int.lt_zpow_succ_log_self (R := ℚ) hbase x.value
    rw [Nat.cast_ofNat, zpow_add_one₀ hten] at hhigh
    rw [hn] at hk hclose ⊢
    exact decimalValue_write_of_near hsign hk (by linarith) le_rfl (by omega) hzero

/-! ## From digits to what is written -/

/-- Digits are rounded when they are read, when they are multiplied and when they are written. -/
theorem abs_decimalValue_write_sub_le {q : ℚ} {m : ℕ} (hq : 0 ≤ q) (hm : 1 ≤ m)
    (hv : nearest? .double false q = some v)
    (hx : nearest? .double false (v.value * m) = some x) :
    |decimalValue (write (some x)) - q * m| ≤ max q leastNormal * m / 2 ^ 51 := by
  have hm' : (1 : ℚ) ≤ m := by exact_mod_cast hm
  have hproduct : 0 ≤ v.value * m := mul_nonneg v.value_nonneg m.cast_nonneg
  have hbound : leastNormal ≤ max q leastNormal := le_max_right _ _
  have hbound' : leastNormal ≤ max q leastNormal * m := by
    calc leastNormal ≤ max q leastNormal * 1 := by rwa [mul_one]
      _ ≤ max q leastNormal * m := by
          gcongr
  obtain ⟨hread, hvalue⟩ := abs_sub_value_le_of_le hq hv (le_max_left _ _) hbound
  obtain ⟨hscaled, hvalue'⟩ := abs_sub_value_le_of_le hproduct hx
    (b := max q leastNormal * m * (1 + 1 / 2 ^ 53))
    (by
      rw [mul_right_comm]
      gcongr)
    (by linarith [leastNormal_pos])
  obtain ⟨hdouble, -, hsign⟩ := nearest?_spec hproduct hx
  obtain ⟨-, hwritten, -⟩ := nearest?_spec (decimalValue_nonneg _) (nearest?_write hdouble hsign)
  have hulp : 2 ^ 52 * 2 ^ x.exponent ≤
      max q leastNormal * m * (1 + 1 / 2 ^ 53) * (1 + 1 / 2 ^ 53) :=
    hdouble.two_zpow_exponent_le.trans (max_le hvalue' (by linarith [leastNormal_pos]))
  have hread' : |v.value * m - q * m| ≤ max q leastNormal * m / 2 ^ 53 := by
    rw [← sub_mul, abs_mul, Nat.abs_cast, abs_sub_comm, mul_div_right_comm]
    gcongr
  calc |decimalValue (write (some x)) - q * m|
      = |(decimalValue (write (some x)) - x.value) + (x.value - v.value * m) +
          (v.value * m - q * m)| := by ring_nf
    _ ≤ |decimalValue (write (some x)) - x.value| + |x.value - v.value * m| +
          |v.value * m - q * m| := abs_add_three _ _ _
    _ ≤ max q leastNormal * m / 2 ^ 51 := by
        rw [abs_sub_comm x.value]
        linarith [leastNormal_pos]

/-- An integer below `2 ^ 53`, or a decimal of at most fifteen digits that is not too small. -/
def IsShort (q : ℚ) : Prop :=
  (∃ n : ℕ, n < 2 ^ 53 ∧ q = n) ∨
    ∃ (k : ℕ) (exponent : ℤ), k < 10 ^ 15 ∧ leastNormal ≤ q ∧ q = k * 10 ^ exponent

theorem decimalValue_write_of_isShort {q : ℚ} (hq : IsShort q)
    (hx : nearest? .double false q = some x) : decimalValue (write (some x)) = q := by
  rcases hq with ⟨n, hn, rfl⟩ | ⟨k, exponent, hk, hnormal, rfl⟩
  · exact decimalValue_write_natCast hn hx
  · exact decimalValue_write_decimal hk hnormal hx

/-- How an amount stands to the product of a number `q` that is read and a multiplier `m`. -/
structure Approximates (a : Amount) (q : ℚ) (m : ℕ) : Prop where
  /-- The number is rounded, and so is its product. -/
  rounded : ∃ v, nearest? .double false q = some v ∧ nearest? .double false (v.value * m) = a
  finite : q * m ≤ 2 ^ (1022 : ℤ) → a ≠ none
  isNumeral : a ≠ none → IsNumeral a.write
  /-- What is written is read as the amount. -/
  reads : a ≠ none → nearest? .double false (decimalValue a.write) = a
  near : a ≠ none → |decimalValue a.write - q * m| ≤ max q leastNormal * m / 2 ^ 51
  /-- A short product is written as it is, if the amount is the value nearest to it. -/
  exact : a ≠ none → nearest? .double false (q * m) = a → IsShort (q * m) →
    decimalValue a.write = q * m
  /-- Without a multiplier, and for a number that is itself a floating-point value, the amount is
  the value nearest to the product. -/
  once : m = 1 ∨ (∃ y : Dyadic, y.IsDouble ∧ y.value = q) → nearest? .double false (q * m) = a

/-- An integer below `2 ^ 53` that needs no rounding but that of the product is written. -/
theorem Approximates.decimalValue_eq_natCast {a : Amount} {q : ℚ} {m n : ℕ}
    (h : a.Approximates q m) (hn : n < 2 ^ 53) (heq : q * m = n)
    (honce : m = 1 ∨ ∃ y : Dyadic, y.IsDouble ∧ y.value = q) : decimalValue a.write = n := by
  have hfinite : a ≠ none := by
    apply h.finite
    calc q * m = n := heq
      _ ≤ 2 ^ (53 : ℤ) := by exact_mod_cast hn.le
      _ ≤ 2 ^ (1022 : ℤ) := zpow_le_zpow_right₀ one_le_two (by norm_num)
  rw [← heq]
  exact h.exact hfinite (h.once honce) (.inl ⟨n, hn, heq⟩)

theorem exists_nearest?_mul {q : ℚ} {m : ℕ} (hq : 0 ≤ q) (hv : nearest? .double false q = some v)
    (hle : q * m ≤ 2 ^ (1022 : ℤ)) : ∃ x, nearest? .double false (v.value * m) = some x := by
  apply exists_nearest? false (mul_nonneg v.value_nonneg m.cast_nonneg)
  calc v.value * m ≤ 2 * q * m :=
        mul_le_mul_of_nonneg_right (value_le_two_mul hq hv) m.cast_nonneg
    _ ≤ 2 * 2 ^ (1022 : ℤ) := by
        rw [mul_assoc]
        exact mul_le_mul_of_nonneg_left hle two_pos.le
    _ = 2 ^ 52 * 2 ^ (971 : ℤ) := by
        rw [← zpow_one_add₀ two_ne_zero, ← zpow_natCast, ← zpow_add₀ two_ne_zero]
        norm_num
    _ ≤ (2 ^ 53 - 1) * 2 ^ (971 : ℤ) := by
        gcongr
        norm_num

theorem nearest?_mul_eq {q : ℚ} {m : ℕ} (hq : 0 ≤ q) (hv : nearest? .double false q = some v)
    (h : m = 1 ∨ ∃ y : Dyadic, y.IsDouble ∧ y.value = q) :
    nearest? .double false (q * m) = nearest? .double false (v.value * m) := by
  obtain ⟨hdouble, -, hsign⟩ := nearest?_spec hq hv
  rcases h with rfl | ⟨y, hy, hvalue⟩
  · rw [Nat.cast_one, mul_one, mul_one, hv, ← hsign, hdouble.nearest?_value]
  · have hnearer := abs_sub_value_le hq hv hy
    rw [hvalue, sub_self, abs_zero, abs_nonpos_iff, sub_eq_zero] at hnearer
    rw [hnearer]

theorem one_le_multiplier (unit : Option Text) : 1 ≤ multiplier unit := by
  rw [multiplier]
  split <;> norm_num

theorem approximates_inUnit {digits : Text} (h : read? digits = some v)
    (hplain : ∀ c ∈ ['-', '+', 'e', 'E'], c ∉ digits) (unit : Option Text) :
    (inUnit unit v).Approximates (decimalValue (digits.filter (· != ','))) (multiplier unit) := by
  have hv := nearest?_of_read? h hplain
  have hq := decimalValue_nonneg (digits.filter (· != ','))
  obtain ⟨-, -, hsign⟩ := nearest?_spec hq hv
  have hproduct : 0 ≤ v.value * multiplier unit := mul_nonneg v.value_nonneg (Nat.cast_nonneg _)
  have hamount := inUnit_eq_nearest? unit v
  rw [hsign] at hamount
  refine ⟨⟨v, hv, hamount.symm⟩, ?finite, ?isNumeral, ?reads, ?near, ?exact, ?once⟩
  case finite =>
    intro hle
    obtain ⟨x, hx⟩ := exists_nearest?_mul hq hv hle
    rw [hamount, hx]
    exact Option.some_ne_none x
  case once =>
    intro honce
    rw [hamount]
    exact nearest?_mul_eq hq hv honce
  all_goals
    intro hfinite
    obtain ⟨x, hx⟩ := Option.ne_none_iff_exists'.1 hfinite
    rw [hx] at hamount ⊢
    obtain ⟨hdouble, -, hsign'⟩ := nearest?_spec hproduct hamount.symm
  case isNumeral => exact isNumeral_write hsign'
  case reads => exact nearest?_write hdouble hsign'
  case near => exact abs_decimalValue_write_sub_le hq (one_le_multiplier unit) hv hamount.symm
  case exact => exact fun hnearest hshort => decimalValue_write_of_isShort hshort hnearest

end Amount

end LotSearch
