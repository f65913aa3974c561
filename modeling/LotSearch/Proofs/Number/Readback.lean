import LotSearch.Json.Reader
import LotSearch.Proofs.Number.Written
import LotSearch.Proofs.Text.Trim
import LotSearch.Template.Validation

/-!
# Numbers read back from their text

A number that is not an integer is printed as a numeral with a point, a power of ten behind it, or
both.  Such a text is no integer, and its exact value is that of the shortest digits, which round to
the number again.  An integer is read back from its digits up to the greatest one of 64 bits with
sign; the text of a greater integer is read as the floating-point value nearest to it.
-/

namespace LotSearch

open Text LotSearch.Dyadic

/-- The numbers that a value can hold: the integers that 64 bits hold with or without a sign, and
the values of the double format. -/
def JsonNumber.Representable : JsonNumber → Prop
  | whole n => minInt64 ≤ n ∧ n ≤ maxUInt64
  | real x => x.IsDouble

/-- Whether a number is not an integer that needs 64 bits without a sign. -/
def JsonNumber.FitsSigned : JsonNumber → Prop
  | whole n => n ≤ maxInt64
  | real _ => True

/-! ## Integers -/

namespace Text

theorem integer?_ofInt (n : ℤ) : integer? (ofInt n) = some n := by
  cases n with
  | ofNat n =>
      rw [ofInt, integer?_of_digits fun _ => isDigit_of_mem_ofNat, natural?_ofNat]
      rfl
  | negSucc n =>
      rw [ofInt, integer?, natural?_ofNat]
      rfl

theorem integer?_plus {n : ℤ} (h : 0 ≤ n) : integer? ('+' :: ofInt n) = some n := by
  rw [integer?, ofInt_of_nonneg h, natural?_ofNat, Option.map_some, Int.ofNat_eq_natCast,
    Int.toNat_of_nonneg h]

theorem isBlank_of_mem_ofInt {n : ℤ} {c : Char} (h : c ∈ ofInt n) : isBlank c = false := by
  cases n with
  | ofNat n => exact isBlank_of_isDigit (isDigit_of_mem_ofNat h)
  | negSucc n =>
      rcases List.mem_cons.1 h with rfl | hdigit
      · decide
      · exact isBlank_of_isDigit (isDigit_of_mem_ofNat hdigit)

theorem natural?_eq_none {t : Text} {c : Char} (hmem : c ∈ t) (hc : isAsciiDigit c = false) :
    natural? t = none := by
  have hall : t.all isAsciiDigit = false := List.all_eq_false.2 ⟨c, hmem, by simp [hc]⟩
  simp [natural?, hall]

/-- A text with a character that is neither a digit nor a sign is no integer. -/
theorem integer?_eq_none {t : Text} {c : Char} (hmem : c ∈ t) (hc : isAsciiDigit c = false)
    (hplus : c ≠ '+') (hminus : c ≠ '-') : integer? t = none := by
  unfold integer?
  split
  · rw [natural?_eq_none ((List.mem_cons.1 hmem).resolve_left hplus) hc, Option.map_none]
  · rw [natural?_eq_none ((List.mem_cons.1 hmem).resolve_left hminus) hc, Option.map_none]
  · rw [natural?_eq_none hmem hc, Option.map_none]

theorem trim_eq_self_of_forall {t : Text} (h : ∀ c ∈ t, isBlank c = false) : trim t = t :=
  trim_eq_self (fun _ hc => h _ (List.mem_of_mem_head? hc))
    fun _ hc => h _ (List.mem_of_getLast? hc)

end Text

/-! ## Numerals with a power of ten -/

theorem IsNumeral.exists_head {m : Text} (h : IsNumeral m) :
    ∃ c, m.head? = some c ∧ isAsciiDigit c = true := by
  cases h with
  | @whole digits hne hdigits =>
      obtain ⟨c, digits, rfl⟩ := List.exists_cons_of_ne_nil hne
      exact ⟨c, rfl, hdigits c List.mem_cons_self⟩
  | @point digits fraction hne hdigits _ _ =>
      obtain ⟨c, digits, rfl⟩ := List.exists_cons_of_ne_nil hne
      exact ⟨c, rfl, hdigits c List.mem_cons_self⟩

/-- Behind a numeral only the power of ten is left to read. -/
theorem IsNumeral.numeral?_append {m : Text} (h : IsNumeral m) (negative : Bool) {rest : Text}
    (hrest : rest = [] ∨ ∃ t, rest = 'e' :: t) {power : ℤ}
    (hpower : powerOfTen? rest = some power) :
    ∃ d, numeral? negative (m ++ rest) = some d ∧ d.negative = negative ∧
      d.value = decimalValue m * 10 ^ power := by
  have hten : (10 : ℚ) ≠ 0 := by norm_num
  have hstop : rest.head?.any isAsciiDigit = false := by
    rcases hrest with rfl | ⟨t, rfl⟩ <;> rfl
  cases h with
  | whole hne hdigits =>
      refine ⟨.ofParts negative m [] power, ?_, rfl, ?_⟩
      · rw [numeral?, takeWhile_append_of_class hdigits hstop,
          dropWhile_append_of_class hdigits hstop]
        rcases hrest with rfl | ⟨t, rfl⟩ <;> simp [hne, hpower]
      · simp [Decimal.ofParts, Decimal.value, decimalValue_whole hdigits]
  | @point digits fraction hne hdigits _ hfraction =>
      refine ⟨.ofParts negative digits fraction power, ?_, rfl, ?_⟩
      · have hmark : ('.' :: (fraction ++ rest)).head?.any isAsciiDigit = false := rfl
        rw [numeral?, List.append_assoc, List.cons_append, takeWhile_append_of_class hdigits hmark,
          dropWhile_append_of_class hdigits hmark]
        simp only [takeWhile_append_of_class hfraction hstop,
          dropWhile_append_of_class hfraction hstop]
        simp [hne, hpower]
      · rw [decimalValue_point hdigits, Decimal.ofParts, Decimal.value, zpow_sub₀ hten,
          zpow_natCast]
        ring

/-! ## Printed values -/

/-- A number without its sign as it is printed: a numeral with a point or a power of ten. -/
structure PrintedReal (q : ℚ) (u : Text) where
  mantissa : Text
  rest : Text
  power : ℤ
  eq_append : u = mantissa ++ rest
  isNumeral : IsNumeral mantissa
  marked : rest = [] ∧ '.' ∈ mantissa ∨ ∃ t, rest = 'e' :: t
  rest_blank : ∀ c ∈ rest, isBlank c = false
  powerOfTen?_eq : powerOfTen? rest = some power
  value_eq : decimalValue mantissa * 10 ^ power = q

namespace PrintedReal

variable {q : ℚ} {u : Text} (w : PrintedReal q u)

include w

theorem exists_head : ∃ c, u.head? = some c ∧ isAsciiDigit c = true := by
  obtain ⟨c, hhead, hc⟩ := w.isNumeral.exists_head
  exact ⟨c, by rw [w.eq_append, List.head?_append, hhead, Option.some_or], hc⟩

theorem isBlank_of_mem {c : Char} (h : c ∈ u) : isBlank c = false := by
  rw [w.eq_append] at h
  rcases List.mem_append.1 h with hmantissa | hrest
  · rcases w.isNumeral.mem hmantissa with hdigit | rfl
    · exact isBlank_of_isDigit (isDigit_of_isAsciiDigit hdigit)
    · decide
  · exact w.rest_blank c hrest

theorem exists_mark : ∃ c ∈ u, c = '.' ∨ c = 'e' := by
  rw [w.eq_append]
  rcases w.marked with ⟨-, hpoint⟩ | ⟨t, hpower⟩
  · exact ⟨'.', List.mem_append_left _ hpoint, .inl rfl⟩
  · exact ⟨'e', List.mem_append_right _ (hpower ▸ List.mem_cons_self), .inr rfl⟩

theorem exists_numeral? (negative : Bool) :
    ∃ d, numeral? negative u = some d ∧ d.negative = negative ∧ d.value = q := by
  obtain ⟨d, hd, hsign, hvalue⟩ :=
    w.isNumeral.numeral?_append negative (w.marked.imp_left And.left) w.powerOfTen?_eq
  rw [← w.eq_append] at hd
  exact ⟨d, hd, hsign, hvalue.trans w.value_eq⟩

/-- A numeral that rounds to a value is read as that value. -/
theorem unsignedFloat?_eq {x : Dyadic} (hx : nearest? .double x.negative q = some x) :
    unsignedFloat? .double x.negative u = some (.finite x) := by
  obtain ⟨c, hhead, hc⟩ := w.exists_head
  have hword : (unsignedFloat?.asciiWord u).head? = some c := by
    have hlower : c.toLower = c := toLower_eq_self
      (RangesApart.inRanges_eq_false (by decide) (inRanges_of_isAsciiDigit hc))
    rw [unsignedFloat?.asciiWord, List.head?_map, hhead, Option.map_some, hlower]
  have hletter : ∀ {word : Text} {d : Char}, word.head? = some d → isAsciiDigit d = false →
      unsignedFloat?.asciiWord u ≠ word := by
    rintro word d hd hno rfl
    obtain rfl := Option.some.inj (hword.symm.trans hd)
    rw [hc] at hno
    cases hno
  have hinf : unsignedFloat?.asciiWord u ≠ "inf".toList := hletter rfl (by decide)
  have hinfinity : unsignedFloat?.asciiWord u ≠ "infinity".toList := hletter rfl (by decide)
  have hnan : unsignedFloat?.asciiWord u ≠ "nan".toList := hletter rfl (by decide)
  obtain ⟨d, hd, hsign, hvalue⟩ := w.exists_numeral? x.negative
  have hread : d.toDyadic? .double = some x := by
    rw [Decimal.toDyadic?_eq, hsign, hvalue, hx]
  rw [unsignedFloat?]
  simp only [hinf, hinfinity, hnan, decide_false, Bool.or_false, Bool.false_eq_true, if_false, hd,
    Option.map_some, hread]

end PrintedReal

namespace Layout

variable {digits : Text} (hne : digits ≠ []) (h : ∀ c ∈ digits, isAsciiDigit c = true) (power : ℤ)

include hne h

/-- An integer gets a zero behind a point, which does not change its value. -/
theorem positionalText_spec :
    IsNumeral (positionalText ".0".toList digits power) ∧
      '.' ∈ positionalText ".0".toList digits power ∧
      decimalValue (positionalText ".0".toList digits power) =
        digitsValue digits * 10 ^ (power - digits.length + 1) := by
  by_cases hinteger : 0 ≤ power ∧ digits.length ≤ power.toNat + 1
  · have hplain := decimalValue_positionalText h power
    have hwhole : ∀ c ∈ digits ++ List.replicate (power.toNat + 1 - digits.length) '0',
        isAsciiDigit c = true := by
      intro c hc
      rcases List.mem_append.1 hc with hdigit | hzero
      · exact h c hdigit
      · exact isAsciiDigit_of_mem_zeros hzero
    have htext : ∀ after, positionalText after digits power =
        digits ++ List.replicate (power.toNat + 1 - digits.length) '0' ++ after := fun after => by
      rw [positionalText, if_neg (not_lt.2 hinteger.1), if_pos hinteger.2]
    rw [htext, List.append_nil, decimalValue_whole hwhole] at hplain
    have hzero : digitsValue "0".toList = 0 := by decide
    rw [htext]
    refine ⟨.point (by simp [hne]) hwhole (by simp) (forall_mem_of_all (by decide)),
      by simp, ?_⟩
    rw [← hplain]
    refine (decimalValue_point hwhole "0".toList).trans ?_
    rw [digitsValue_append, hzero]
    simp
  · have hsame : positionalText ".0".toList digits power = positionalText [] digits power := by
      simp only [positionalText]
      split_ifs with hnegative hlength
      · rfl
      · exact absurd ⟨not_lt.1 hnegative, hlength⟩ hinteger
      · rfl
    have hpoint : '.' ∈ positionalText [] digits power := by
      simp only [positionalText]
      split_ifs with hnegative hlength
      · simp
      · exact absurd ⟨not_lt.1 hnegative, hlength⟩ hinteger
      · simp
    rw [hsame]
    exact ⟨isNumeral_positionalText hne h power, hpoint, decimalValue_positionalText h power⟩

/-- The digits in front of a power of ten are written positionally as well. -/
theorem scientificText_eq (positivePower : Text) :
    scientificText positivePower digits power = positionalText [] digits 0 ++
      'e' :: (if power < 0 then Text.ofInt power else positivePower ++ Text.ofInt power) := by
  match digits, hne with
  | [digit], _ => rfl
  | first :: second :: rest, _ => simp [scientificText, positionalText]

end Layout

/-- Positional or with a power of ten, a decimal is printed with its exact value. -/
theorem nonempty_printedReal (d : Decimal) : ∃ u, Nonempty (PrintedReal d.value u) ∧
    Json.realLayout.writeDecimal d = (if d.negative then ['-'] else []) ++ u := by
  have hne := Text.ofNat_ne_nil d.digits
  have hdigits : ∀ c ∈ Text.ofNat d.digits, isAsciiDigit c = true := fun _ =>
    isAsciiDigit_of_mem_ofNat
  have hten : (10 : ℚ) ≠ 0 := by norm_num
  set power : ℤ := if d.digits = 0 then 0 else d.exponent + (Text.ofNat d.digits).length - 1
    with hpower
  have hvalue : (digitsValue (Text.ofNat d.digits) : ℚ) *
      10 ^ (power - (Text.ofNat d.digits).length + 1) = d.value := by
    rw [digitsValue_ofNat, Decimal.value, hpower]
    split_ifs with hzero
    · rw [hzero, Nat.cast_zero, zero_mul, zero_mul]
    · congr 2
      omega
  refine ⟨_, ?_, rfl⟩
  rw [← hpower]
  split_ifs with hpositional
  · obtain ⟨hnumeral, hpoint, hwritten⟩ := Layout.positionalText_spec hne hdigits power
    exact ⟨{
      mantissa := _
      rest := []
      power := 0
      eq_append := (List.append_nil _).symm
      isNumeral := hnumeral
      marked := .inl ⟨rfl, hpoint⟩
      rest_blank := by simp
      powerOfTen?_eq := rfl
      value_eq := by
        rw [zpow_zero, mul_one, ← hvalue]
        exact hwritten }⟩
  · have hread : powerOfTen? ('e' :: (if power < 0 then Text.ofInt power
        else Json.realLayout.positivePower ++ Text.ofInt power)) = some power := by
      rw [powerOfTen?, if_pos (by decide)]
      split_ifs with hnegative
      · exact integer?_ofInt power
      · exact integer?_plus (not_lt.1 hnegative)
    have hblank : ∀ c ∈ 'e' :: (if power < 0 then Text.ofInt power
        else Json.realLayout.positivePower ++ Text.ofInt power), isBlank c = false := by
      intro c hc
      rcases List.mem_cons.1 hc with rfl | hc
      · decide
      · split_ifs at hc
        · exact isBlank_of_mem_ofInt hc
        · rcases List.mem_cons.1 hc with rfl | hc
          · decide
          · exact isBlank_of_mem_ofInt hc
    exact ⟨{
      mantissa := Layout.positionalText [] (Text.ofNat d.digits) 0
      rest := _
      power := power
      eq_append := Layout.scientificText_eq hne hdigits power _
      isNumeral := isNumeral_positionalText hne hdigits 0
      marked := .inr ⟨_, rfl⟩
      rest_blank := hblank
      powerOfTen?_eq := hread
      value_eq := by
        rw [decimalValue_positionalText hdigits, mul_assoc, ← zpow_add₀ hten, ← hvalue]
        congr 2
        ring }⟩

/-! ## Reading back -/

namespace Json

theorem exists_writeNumber_real (x : Dyadic) :
    ∃ u, Nonempty (PrintedReal (x.shortest .double realLayout.tie).value u) ∧
      writeNumber (.real x) = (if x.negative then ['-'] else []) ++ u := by
  obtain ⟨u, hu, hwrite⟩ := nonempty_printedReal (x.shortest .double realLayout.tie).normal
  rw [Decimal.value_normal] at hu
  rw [Decimal.negative_normal, negative_shortest] at hwrite
  exact ⟨u, hu, hwrite⟩

theorem trim_writeNumber (n : JsonNumber) : trim (writeNumber n) = writeNumber n := by
  apply trim_eq_self_of_forall
  intro c hc
  cases n with
  | whole n => exact isBlank_of_mem_ofInt hc
  | real x =>
      obtain ⟨u, ⟨w⟩, hwrite⟩ := exists_writeNumber_real x
      rw [hwrite] at hc
      rcases List.mem_append.1 hc with hsign | hu
      · split_ifs at hsign
        · obtain rfl := List.mem_singleton.1 hsign
          decide
        · cases hsign
      · exact w.isBlank_of_mem hu

theorem integer?_writeNumber_real (x : Dyadic) : integer? (writeNumber (.real x)) = none := by
  obtain ⟨u, ⟨w⟩, hwrite⟩ := exists_writeNumber_real x
  obtain ⟨c, hmem, hc⟩ := w.exists_mark
  rw [hwrite]
  apply integer?_eq_none (List.mem_append_right _ hmem) <;> rcases hc with rfl | rfl <;> decide

theorem float?_writeNumber {x : Dyadic} (hx : x.IsDouble) :
    float? .double (writeNumber (.real x)) = some (.finite x) := by
  obtain ⟨u, ⟨w⟩, hwrite⟩ := exists_writeNumber_real x
  have hread := w.unsignedFloat?_eq (hx.nearest?_shortest _)
  rw [hwrite]
  cases hsign : x.negative with
  | true =>
      rw [hsign] at hread
      exact hread
  | false =>
      rw [hsign] at hread
      obtain ⟨c, hhead, hc⟩ := w.exists_head
      rw [if_neg Bool.false_ne_true, List.nil_append, float?]
      · exact hread
      · rintro t rfl
        obtain rfl := Option.some.inj hhead
        cases hc
      · rintro t rfl
        obtain rfl := Option.some.inj hhead
        cases hc

end Json

namespace Parameter

/-- A number is read back from its text unless it is an integer that needs 64 bits without a
sign. -/
theorem readNumber?_writeNumber_iff {n : JsonNumber} (h : n.Representable) :
    readNumber? (trim (Json.writeNumber n)) = some n ↔ n.FitsSigned := by
  rw [Json.trim_writeNumber, readNumber?]
  cases n with
  | real x =>
      rw [integerWithin?, Json.integer?_writeNumber_real, Option.filter_none]
      simp [Json.float?_writeNumber h, FloatReading.finite?, JsonNumber.FitsSigned]
  | whole n =>
      rw [Json.writeNumber, integerWithin?, integer?_ofInt, Option.filter_some]
      by_cases hfits : n ≤ maxInt64
      · simp [h.1, hfits, JsonNumber.FitsSigned]
      · refine iff_of_false (fun hread => ?_) hfits
        simp only [hfits, decide_false, Bool.and_false, Bool.false_eq_true, if_false] at hread
        obtain ⟨x, -, hx⟩ := Option.map_eq_some_iff.1 hread
        cases hx

end Parameter

end LotSearch
