import LotSearch.Number.Shortest
import LotSearch.Proofs.Number.Rounding

/-!
# Shortest digits

A decimal is read as the value nearest to it.  The search for short digits looks at both neighbours
of a value on ever finer grids, so what it finds reads back, and it goes no further than a grid on
which there is a decimal that reads back.  Where the decimals that read back lie closer together
than the grid, it therefore finds that decimal.
-/

namespace LotSearch

theorem log_ten_eq {q : ℚ} {n : ℤ} (hlow : (10 : ℚ) ^ n ≤ q)
    (hhigh : q < 10 ^ (n + 1)) : Int.log 10 q = n := by
  have hbase : 1 < 10 := by norm_num
  have hq : 0 < q := lt_of_lt_of_le (by positivity) hlow
  have hle := (Int.zpow_le_iff_le_log hbase hq).1 (by exact_mod_cast hlow)
  have hlt := (Int.lt_zpow_iff_log_lt hbase hq).1 (by exact_mod_cast hhigh)
  omega

/-- Multiples of a number that lie closer together than the number are equal. -/
theorem eq_of_abs_sub_lt {j k : ℕ} {p : ℚ} (hp : 0 < p) (h : |(j : ℚ) * p - k * p| < p) :
    j = k := by
  rw [← sub_mul, abs_mul, abs_of_pos hp, mul_lt_iff_lt_one_left hp] at h
  have hsame : (j : ℤ) - k = 0 := Int.abs_lt_one_iff.1 (by exact_mod_cast h)
  omega

namespace Decimal

def value (d : Decimal) : ℚ := d.digits * 10 ^ d.exponent

theorem num_div_den (d : Decimal) : (d.num : ℚ) / d.den = d.value := by
  simp only [value, num, den, Nat.pow_eq]
  push_cast
  rw [zpow_eq_div (by norm_num), mul_div_assoc]

theorem digitCount_pos (n : Nat) : 0 < digitCount n := Nat.length_toDigits_pos

theorem lt_pow_digitCount (n : Nat) : n < 10 ^ digitCount n :=
  (Nat.length_toDigits_le_iff (by norm_num) (digitCount_pos n)).1 le_rfl

theorem pow_digitCount_le {n : Nat} (hn : 0 < n) : 10 ^ (digitCount n - 1) ≤ n := by
  have hcount := digitCount_pos n
  by_contra hlt
  rw [not_le] at hlt
  rcases Nat.eq_zero_or_pos (digitCount n - 1) with hzero | hpos
  · rw [hzero, pow_zero] at hlt
    omega
  · have hle : digitCount n ≤ digitCount n - 1 :=
      (Nat.length_toDigits_le_iff (by norm_num) hpos).2 hlt
    omega

theorem exists_digitCount_eq {n : Nat} (hn : 0 < n) :
    ∃ k, digitCount n = k + 1 ∧ 10 ^ k ≤ n ∧ n < 10 ^ (k + 1) := by
  obtain ⟨k, hk⟩ := Nat.exists_eq_add_one.2 (digitCount_pos n)
  have hlow := pow_digitCount_le hn
  rw [hk, Nat.add_sub_cancel] at hlow
  exact ⟨k, hk, hlow, hk ▸ lt_pow_digitCount n⟩

theorem value_bounds {d : Decimal} (h : 0 < d.digits) :
    (10 : ℚ) ^ ((digitCount d.digits : ℤ) + d.exponent - 1) ≤ d.value ∧
      d.value < 10 ^ ((digitCount d.digits : ℤ) + d.exponent) := by
  have hten : (10 : ℚ) ≠ 0 := by norm_num
  have hcount := digitCount_pos d.digits
  have hlow : (10 : ℚ) ^ (digitCount d.digits - 1) ≤ d.digits := by
    exact_mod_cast pow_digitCount_le h
  have hhigh : (d.digits : ℚ) < 10 ^ digitCount d.digits := by
    exact_mod_cast lt_pow_digitCount d.digits
  constructor
  · calc (10 : ℚ) ^ ((digitCount d.digits : ℤ) + d.exponent - 1)
        = 10 ^ (digitCount d.digits - 1) * 10 ^ d.exponent := by
          rw [← zpow_natCast, ← zpow_add₀ hten]
          congr 1
          omega
      _ ≤ d.value := by
          rw [value]
          gcongr
  · calc d.value < 10 ^ digitCount d.digits * 10 ^ d.exponent := by
          rw [value]
          gcongr
      _ = 10 ^ ((digitCount d.digits : ℤ) + d.exponent) := by
          rw [← zpow_natCast, ← zpow_add₀ hten]

theorem pow_two_lt_pow_ten : (2 : ℚ) ^ 1024 < 10 ^ 400 ∧ (2 : ℚ) ^ 1075 < 10 ^ 401 := by
  constructor
  · calc (2 : ℚ) ^ 1024 = (2 ^ 64) ^ 16 := by rw [← pow_mul]
      _ < (10 ^ 25) ^ 16 := by
          gcongr
          norm_num
      _ = 10 ^ 400 := by rw [← pow_mul]
  · calc (2 : ℚ) ^ 1075 = (2 ^ 43) ^ 25 := by rw [← pow_mul]
      _ < (10 ^ 16) ^ 25 := by
          gcongr
          norm_num
      _ = 10 ^ 400 := by rw [← pow_mul]
      _ ≤ 10 ^ 401 := pow_le_pow_right₀ (by norm_num) (by norm_num)

/-- A decimal is read as the nearest value, also where its magnitude alone decides. -/
theorem toDyadic?_eq (d : Decimal) :
    d.toDyadic? .double = Dyadic.nearest? .double d.negative d.value := by
  rcases Nat.eq_zero_or_pos d.digits with hzero | hpos
  · simp only [toDyadic?, hzero, value, Nat.cast_zero, zero_mul, decide_true, Bool.true_or, if_true]
    rfl
  · obtain ⟨hlow, hhigh⟩ := value_bounds hpos
    have hnonneg : 0 ≤ d.value := le_trans (by positivity) hlow
    have hbound : magnitudeBound = 400 := rfl
    simp only [toDyadic?, hpos.ne', decide_false, Bool.false_or, decide_eq_true_eq]
    split_ifs with hsmall hlarge
    · have htiny : d.value < 2 ^ (-1075 : ℤ) := by
        calc d.value < 10 ^ ((digitCount d.digits : ℤ) + d.exponent) := hhigh
          _ ≤ 10 ^ (-401 : ℤ) := zpow_le_zpow_right₀ (by norm_num) (by omega)
          _ < 2 ^ (-1075 : ℤ) := by
              rw [zpow_neg, zpow_neg]
              exact inv_strictAnti₀ (by positivity) (mod_cast pow_two_lt_pow_ten.2)
      rw [Dyadic.nearest?_eq_zero d.negative hnonneg htiny]
      rfl
    · have hhuge : (2 : ℚ) ^ (1024 : ℤ) ≤ d.value := by
        calc (2 : ℚ) ^ (1024 : ℤ) ≤ 10 ^ (400 : ℤ) := mod_cast pow_two_lt_pow_ten.1.le
          _ ≤ 10 ^ ((digitCount d.digits : ℤ) + d.exponent - 1) :=
              zpow_le_zpow_right₀ (by norm_num) (by omega)
          _ ≤ d.value := hlow
      rw [Dyadic.nearest?_eq_none d.negative hhuge]
    · have hden : 0 < d.den := Nat.pow_pos (by norm_num)
      rw [Dyadic.ofQuotient?_eq_nearest? _ _ _ hden, num_div_den]

theorem value_normal (d : Decimal) : d.normal.value = d.value := by
  have hstrip : ∀ (fuel : Nat) (e : Decimal), (e.stripZeros fuel).value = e.value := by
    intro fuel
    induction fuel with
    | zero => exact fun _ => rfl
    | succ fuel ih =>
        intro e
        simp only [stripZeros]
        split_ifs with hzero
        · rw [ih]
          simp only [Bool.and_eq_true, decide_eq_true_eq] at hzero
          have hdigits : (e.digits : ℚ) = (e.digits / 10 : ℕ) * 10 := by
            exact_mod_cast (Nat.div_mul_cancel (Nat.dvd_of_mod_eq_zero hzero.2)).symm
          rw [value, value, hdigits, zpow_add_one₀ (by norm_num)]
          ring
        · rfl
  exact hstrip _ d

end Decimal

namespace Dyadic

variable {x : Dyadic} {tie : Tie} {exponent : ℤ}

/-! ## The grids -/

theorem log_ten_of_div {num den n : ℕ} (hden : 0 < den) (hlow : 10 ^ n ≤ num / den)
    (hhigh : num / den < 10 ^ (n + 1)) : Int.log 10 ((num : ℚ) / den) = n := by
  have hden' : (0 : ℚ) < den := by exact_mod_cast hden
  rw [Nat.le_div_iff_mul_le hden] at hlow
  rw [Nat.div_lt_iff_lt_mul hden] at hhigh
  apply log_ten_eq
  · rw [le_div_iff₀ hden', zpow_natCast]
    exact_mod_cast hlow
  · rw [div_lt_iff₀ hden']
    exact_mod_cast hhigh

/-- A quotient below one has the leading digit where its inverse has it, or one place behind. -/
theorem log_ten_of_div_inv {num den n : ℕ} (hnum : 0 < num) (hden : 0 < den)
    (hlow : 10 ^ n ≤ den / num) (hhigh : den / num < 10 ^ (n + 1)) :
    Int.log 10 ((num : ℚ) / den) = if den ≤ num * 10 ^ n then -(n : ℤ) else -(n + 1 : ℤ) := by
  have hden' : (0 : ℚ) < den := by exact_mod_cast hden
  rw [Nat.le_div_iff_mul_le hnum] at hlow
  rw [Nat.div_lt_iff_lt_mul hnum] at hhigh
  split_ifs with hreach
  · apply log_ten_eq
    · rw [le_div_iff₀ hden', zpow_neg, zpow_natCast, inv_mul_le_iff₀ (by positivity), mul_comm]
      exact_mod_cast hreach
    · have hten : (10 : ℚ) ^ (-(n : ℤ) + 1) = 10 * (10 ^ n)⁻¹ := by
        rw [zpow_add_one₀ (by norm_num), zpow_neg, zpow_natCast, mul_comm]
      have hle : (num : ℚ) ≤ (10 ^ n)⁻¹ * den := by
        rw [le_inv_mul_iff₀ (by positivity)]
        exact_mod_cast hlow
      have hpos : (0 : ℚ) < (10 ^ n)⁻¹ * den := by positivity
      rw [div_lt_iff₀ hden', hten]
      linarith
  · apply log_ten_eq
    · rw [le_div_iff₀ hden', ← Nat.cast_one, ← Nat.cast_add, zpow_neg, zpow_natCast,
        inv_mul_le_iff₀ (by positivity)]
      exact_mod_cast hhigh.le
    · rw [div_lt_iff₀ hden', neg_add_rev, neg_add_cancel_comm, zpow_neg, zpow_natCast,
        lt_inv_mul_iff₀ (by positivity), mul_comm]
      exact_mod_cast not_le.1 hreach

theorem leadingPower_eq {num den : Nat} (hnum : 0 < num) (hden : 0 < den) :
    leadingPower num den = Int.log 10 ((num : ℚ) / den) := by
  simp only [leadingPower]
  split_ifs with hle hreach
  · obtain ⟨n, hcount, hlow, hhigh⟩ := Decimal.exists_digitCount_eq (Nat.div_pos hle hden)
    rw [log_ten_of_div hden hlow hhigh, hcount]
    omega
  all_goals
    obtain ⟨n, hcount, hlow, hhigh⟩ :=
      Decimal.exists_digitCount_eq (Nat.div_pos (not_le.1 hle).le hnum)
    rw [hcount, Nat.add_sub_cancel, Nat.pow_eq] at hreach
    rw [log_ten_of_div_inv hnum hden hlow hhigh, hcount]
  · rw [if_pos hreach]
    omega
  · rw [if_neg hreach]
    omega

/-! ## Neighbours -/

theorem readsBack_iff {digits : Nat} :
    readsBack .double x digits exponent = true ↔
      nearest? .double x.negative (digits * 10 ^ exponent) = some x := by
  rw [readsBack, beq_iff_eq, Decimal.toDyadic?_eq]
  rfl

/-- The number of whole steps of a grid up to a value. -/
def gridFloor (x : Dyadic) (exponent : ℤ) : Nat :=
  x.num * Nat.pow 10 (-exponent).toNat / (x.den * Nat.pow 10 exponent.toNat)

theorem gridFloor_bounds (x : Dyadic) (exponent : ℤ) :
    gridFloor x exponent * (10 : ℚ) ^ exponent ≤ x.value ∧
      x.value < (gridFloor x exponent + 1) * (10 : ℚ) ^ exponent := by
  have hden : 0 < x.den * 10 ^ exponent.toNat := Nat.mul_pos x.den_pos (by positivity)
  have hscaled : ((x.num * 10 ^ (-exponent).toNat : ℕ) : ℚ) / (x.den * 10 ^ exponent.toNat : ℕ) =
      x.value / 10 ^ exponent := by
    push_cast
    rw [mul_div_mul_comm, value, zpow_eq_div (by norm_num), div_div_eq_mul_div, mul_div_assoc]
  have hpos : (0 : ℚ) < 10 ^ exponent := by positivity
  rw [← le_div_iff₀ hpos, ← div_lt_iff₀ hpos, ← hscaled]
  have hfloor : gridFloor x exponent =
      ⌊((x.num * 10 ^ (-exponent).toNat : ℕ) : ℚ) / (x.den * 10 ^ exponent.toNat : ℕ)⌋₊ := by
    rw [Nat.floor_div_eq_div]
    rfl
  rw [hfloor]
  exact ⟨Nat.floor_le (by positivity), Nat.lt_floor_add_one _⟩

theorem exists_neighbours (tie : Tie) (x : Dyadic) (exponent : ℤ) :
    ∃ nearer farther,
      (nearer = gridFloor x exponent ∧ farther = gridFloor x exponent + 1 ∨
        nearer = gridFloor x exponent + 1 ∧ farther = gridFloor x exponent) ∧
      neighbour? .double tie x exponent =
        if readsBack .double x nearer exponent then some ⟨x.negative, nearer, exponent⟩
        else if readsBack .double x farther exponent then some ⟨x.negative, farther, exponent⟩
        else none := by
  have hunfold : ∃ upper : Bool, neighbour? .double tie x exponent =
      if readsBack .double x
          (if upper then gridFloor x exponent + 1 else gridFloor x exponent) exponent then
        some ⟨x.negative,
          if upper then gridFloor x exponent + 1 else gridFloor x exponent, exponent⟩
      else if readsBack .double x
          (if upper then gridFloor x exponent else gridFloor x exponent + 1) exponent then
        some ⟨x.negative,
          if upper then gridFloor x exponent else gridFloor x exponent + 1, exponent⟩
      else none := ⟨_, rfl⟩
  obtain ⟨upper, hupper⟩ := hunfold
  cases upper with
  | false => exact ⟨_, _, .inl ⟨rfl, rfl⟩, hupper⟩
  | true => exact ⟨_, _, .inr ⟨rfl, rfl⟩, hupper⟩

theorem neighbour?_spec {d : Decimal} (h : neighbour? .double tie x exponent = some d) :
    d.exponent = exponent ∧ nearest? .double x.negative d.value = some x := by
  obtain ⟨nearer, farther, -, hneighbour⟩ := exists_neighbours tie x exponent
  rw [hneighbour] at h
  split_ifs at h with hnearer hfarther
  · cases h
    exact ⟨rfl, readsBack_iff.1 hnearer⟩
  · cases h
    exact ⟨rfl, readsBack_iff.1 hfarther⟩

/-- A multiple of the grid that lies closer to a value than the grid is one of its neighbours. -/
theorem neighbour?_ne_none {k : Nat} (h : |(k : ℚ) * 10 ^ exponent - x.value| < 10 ^ exponent)
    (hk : nearest? .double x.negative (k * 10 ^ exponent) = some x) :
    neighbour? .double tie x exponent ≠ none := by
  have hpos : (0 : ℚ) < 10 ^ exponent := by positivity
  have hreads := readsBack_iff.2 hk
  obtain ⟨hfloor, hfloor'⟩ := gridFloor_bounds x exponent
  obtain ⟨habove, hbelow⟩ := abs_lt.1 h
  have hle : (gridFloor x exponent : ℚ) < k + 1 := by
    apply lt_of_mul_lt_mul_right _ hpos.le
    linarith
  have hlt : (k : ℚ) < gridFloor x exponent + 2 := by
    apply lt_of_mul_lt_mul_right _ hpos.le
    linarith
  norm_cast at hle hlt
  obtain ⟨nearer, farther, hcases, hneighbour⟩ := exists_neighbours tie x exponent
  have hone : k = nearer ∨ k = farther := by omega
  rw [hneighbour]
  rcases hone with rfl | rfl
  · rw [if_pos hreads]
    simp
  · rw [if_pos hreads]
    split_ifs <;> simp

theorem firstDigits?_cons (tie : Tie) (x : Dyadic) (power : ℤ) (count : Nat) (counts : List Nat) :
    firstDigits? .double tie x power (count :: counts) =
      match neighbour? .double tie x (power - count + 1) with
      | some d => some d
      | none => firstDigits? .double tie x power counts := by
  rfl

/-- The digits that are found read back, and no coarser grid has a neighbour that does. -/
theorem firstDigits?_spec {power : ℤ} {start fuel : Nat} {d : Decimal}
    (h : firstDigits? .double tie x power (List.range' start fuel) = some d) :
    ∃ count, start ≤ count ∧ neighbour? .double tie x (power - count + 1) = some d ∧
      ∀ earlier, start ≤ earlier → earlier < count →
        neighbour? .double tie x (power - earlier + 1) = none := by
  induction fuel generalizing start with
  | zero => cases h
  | succ fuel ih =>
      rw [List.range'_succ, firstDigits?_cons] at h
      split at h
      · rename_i found hfound
        cases h
        exact ⟨start, le_rfl, hfound, fun earlier hstart hlt => absurd hlt (not_lt.2 hstart)⟩
      · rename_i hnone
        obtain ⟨count, hcount, hfound, hearlier⟩ := ih h
        refine ⟨count, by omega, hfound, fun earlier hstart hlt => ?_⟩
        rcases hstart.eq_or_lt with rfl | hlater
        · exact hnone
        · exact hearlier earlier hlater hlt

theorem firstDigits?_ne_none {power : ℤ} {start fuel count : Nat}
    (hcount : neighbour? .double tie x (power - count + 1) ≠ none) (hstart : start ≤ count)
    (hfuel : count < start + fuel) :
    firstDigits? .double tie x power (List.range' start fuel) ≠ none := by
  induction fuel generalizing start with
  | zero => omega
  | succ fuel ih =>
      rw [List.range'_succ, firstDigits?_cons]
      split
      · simp
      · rename_i hnone
        apply ih
        · rcases hstart.eq_or_lt with rfl | hlater
          · exact absurd hnone hcount
          · exact hlater
        · omega

/-! ## The shortest decimal -/

theorem value_exactDecimal (x : Dyadic) : x.exactDecimal.value = x.value := by
  rw [value_eq, exactDecimal]
  split_ifs with hnegative
  · obtain ⟨n, hn⟩ : ∃ n : ℕ, x.exponent = -n := ⟨(-x.exponent).toNat, by omega⟩
    have hten : (10 : ℚ) ^ n = 5 ^ n * 2 ^ n := by
      rw [← mul_pow]
      norm_num
    simp only [Decimal.value, hn, Nat.pow_eq, neg_neg, Int.toNat_natCast, zpow_neg, zpow_natCast,
      hten]
    push_cast
    field_simp
  · obtain ⟨n, hn⟩ : ∃ n : ℕ, x.exponent = n := ⟨x.exponent.toNat, by omega⟩
    simp only [Decimal.value, hn, Nat.pow_eq, Int.toNat_natCast, zpow_natCast, zpow_zero, mul_one]
    push_cast
    rfl

theorem shortest_eq (h : x.isZero = false) (tie : Tie) :
    x.shortest .double tie = (firstDigits? .double tie x (Int.log 10 x.value)
      (List.range' 1 17)).getD x.exactDecimal := by
  have hnum : 0 < x.num := by
    have hsignificand : x.significand ≠ 0 := by simpa [isZero] using h
    exact Nat.mul_pos (Nat.pos_of_ne_zero hsignificand) (Nat.two_pow_pos _)
  rw [shortest, h, if_neg (by simp), leadingPower_eq hnum x.den_pos]
  rfl

theorem value_of_isZero (h : x.isZero = true) : x.value = 0 := by
  have hsignificand : x.significand = 0 := by simpa [isZero] using h
  rw [value_eq, hsignificand, Nat.cast_zero, zero_mul]

theorem value_shortest_of_isZero (h : x.isZero = true) (tie : Tie) :
    (x.shortest .double tie).value = 0 := by
  rw [shortest, h, if_pos rfl, Decimal.value, Nat.cast_zero, zero_mul]

/-- The shortest decimal reads back as the value that it is written for. -/
theorem IsDouble.nearest?_shortest (h : x.IsDouble) (tie : Tie) :
    nearest? .double x.negative (x.shortest .double tie).value = some x := by
  cases hzero : x.isZero with
  | true =>
      rw [value_shortest_of_isZero hzero, ← value_of_isZero hzero]
      exact h.nearest?_value
  | false =>
      rw [shortest_eq hzero]
      cases hdigits : firstDigits? .double tie x (Int.log 10 x.value) (List.range' 1 17) with
      | none =>
          rw [Option.getD_none, value_exactDecimal]
          exact h.nearest?_value
      | some d =>
          obtain ⟨count, -, hfound, -⟩ := firstDigits?_spec hdigits
          exact (neighbour?_spec hfound).2

/-- A decimal is found when no other multiple of its last place reads back. -/
theorem value_shortest {k : Nat}
    (hk : nearest? .double x.negative (k * 10 ^ exponent) = some x)
    (hnear : |(k : ℚ) * 10 ^ exponent - x.value| + 2 ^ x.exponent / 2 < 10 ^ exponent)
    (hle : exponent ≤ Int.log 10 x.value) (hlog : Int.log 10 x.value ≤ exponent + 16)
    (hzero : x.isZero = false) (tie : Tie) :
    (x.shortest .double tie).value = k * 10 ^ exponent := by
  have hpos : (0 : ℚ) < 10 ^ exponent := by positivity
  have hulp : (0 : ℚ) < 2 ^ x.exponent := by positivity
  -- the number of digits at which the grid has the last place of the decimal
  obtain ⟨n, hn⟩ : ∃ n : ℕ, Int.log 10 x.value - n + 1 = exponent :=
    ⟨(Int.log 10 x.value - exponent + 1).toNat, by omega⟩
  have hneighbour : neighbour? .double tie x (Int.log 10 x.value - n + 1) ≠ none := by
    rw [hn]
    exact neighbour?_ne_none (by linarith) hk
  have hdigits : firstDigits? .double tie x (Int.log 10 x.value) (List.range' 1 17) ≠ none :=
    firstDigits?_ne_none hneighbour (by omega) (by omega)
  obtain ⟨d, hd⟩ := Option.ne_none_iff_exists'.1 hdigits
  rw [shortest_eq hzero, hd, Option.getD_some]
  obtain ⟨count, -, hfound, hearlier⟩ := firstDigits?_spec hd
  obtain ⟨hexponent, hreads⟩ := neighbour?_spec hfound
  have hcoarse : exponent ≤ d.exponent := by
    by_contra hfine
    exact hneighbour (hearlier n (by omega) (by omega))
  obtain ⟨j, hj⟩ := exists_mul_zpow_eq (b := 10) (by norm_num) d.digits hcoarse
  rw [Nat.cast_ofNat, ← Decimal.value] at hj
  have hnonneg : 0 ≤ d.value := by
    rw [hj]
    positivity
  have hclose := (nearest?_spec hnonneg hreads).2.1
  rw [hj] at hclose ⊢
  have hsum : |(j : ℚ) * 10 ^ exponent - k * 10 ^ exponent| < 10 ^ exponent := by
    calc |(j : ℚ) * 10 ^ exponent - k * 10 ^ exponent|
        = |(j * 10 ^ exponent - x.value) - (k * 10 ^ exponent - x.value)| := by ring_nf
      _ ≤ |j * 10 ^ exponent - x.value| + |k * 10 ^ exponent - x.value| := abs_sub _ _
      _ < 10 ^ exponent := by linarith
  rw [eq_of_abs_sub_lt hpos hsum]

end Dyadic

end LotSearch
