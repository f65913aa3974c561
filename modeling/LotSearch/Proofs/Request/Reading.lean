import LotSearch.Proofs.Number.Numeral
import LotSearch.Proofs.Text.Case
import LotSearch.Proofs.Text.Located
import LotSearch.Request.Search

/-!
# What is read from a request

Whatever characters a request consists of, the district that is read from it is a capital, a
digit, perhaps a hyphen and perhaps another digit, the amounts are not negative, and the number of
results is between one and the row ceiling.
-/

namespace LotSearch

/-- A capital of ASCII and a decimal digit of any script, then perhaps a hyphen and perhaps
another digit. -/
def IsDistrict (d : Text) : Prop :=
  ∃ (letter digit : Char) (hyphen second : Text), d = letter :: digit :: (hyphen ++ second) ∧
    ('A' ≤ letter ∧ letter ≤ 'Z') ∧ isDigit digit = true ∧ (hyphen = [] ∨ hyphen = ['-']) ∧
    (second = [] ∨ ∃ c, second = [c] ∧ isDigit c = true)

/-- The bounds that the parts of a search keep to. -/
structure Search.WellFormed (s : Search) : Prop where
  district : ∀ d ∈ s.district, IsDistrict d
  lotArea : ∀ t ∈ s.lotArea, t.amount.Nonneg
  assessedValue : ∀ t ∈ s.assessedValue, t.amount.Nonneg
  one_le_limit : 1 ≤ s.limit
  limit_le : s.limit ≤ Statement.rowCeiling

/-- The characters of which an amount consists, apart from its point. -/
def isFigure (c : Char) : Bool := isDigit c || c == ','

def isAmountChar (c : Char) : Bool := isFigure c || c == '.'

namespace Vocabulary

open Pattern

/-- What is captured as a district becomes one with its letter in capitals. -/
theorem isDistrict_of_captures {t : Text} (h : district.Captures 1 t) (hkelvin : '\u212A' ∉ t) :
    IsDistrict (t.map Text.upperChar) := by
  have hspells : (letter ++ digit ++ Pattern.optional "-" ++ Pattern.optional digit).Spells t := by
    simpa [district, letter, Pattern.digit, Captures] using h
  obtain ⟨_, second, rfl, ⟨_, hyphen, rfl, ⟨_, _, rfl, ⟨c, rfl, hc⟩, ⟨d, rfl, hd⟩⟩, hhyphen⟩,
    hsecond⟩ := hspells
  have hfold : 'a' ≤ foldAscii c ∧ foldAscii c ≤ 'z' := by simpa using hc
  have hcapital := Text.upperChar_of_foldAscii (by rintro rfl; simp at hkelvin) hfold
  rw [spells_optional, spells_literal] at hhyphen
  rw [spells_optional] at hsecond
  have hhyphens : hyphen.map Text.upperChar = hyphen := by
    rcases hhyphen with rfl | rfl <;> rfl
  have hseconds : second.map Text.upperChar = second := by
    rcases hsecond with ⟨e, rfl, he⟩ | rfl
    · simp [Text.upperChar_of_isDigit he]
    · rfl
  refine ⟨Text.upperChar c, d, hyphen, second, ?_, hcapital, hd, hhyphen.symm, hsecond.symm⟩
  simp [hhyphens, hseconds, Text.upperChar_of_isDigit hd]

theorem amount_cases {t : Text} (h : amount.Spells t) : ∃ whole fraction, t = whole ++ fraction ∧
    (whole ≠ [] ∧ ∀ c ∈ whole, isFigure c = true) ∧ (fraction = [] ∨ ∃ decimals,
      fraction = '.' :: decimals ∧ decimals ≠ [] ∧ ∀ c ∈ decimals, isDigit c = true) := by
  obtain ⟨_, fraction, rfl, ⟨_, _, rfl, ⟨_, whole, rfl, rfl, hwhole⟩, rfl⟩, hfraction⟩ := h
  rw [spells_repeated] at hwhole
  refine ⟨whole, fraction, by simp, hwhole, ?_⟩
  rcases hfraction with ⟨_, _, rfl, ⟨_, decimals, rfl, hpoint, hdecimals⟩, rfl⟩ | rfl
  · rw [spells_literal] at hpoint
    rw [spells_repeated] at hdecimals
    exact .inr ⟨decimals, by simp [hpoint], hdecimals⟩
  · exact .inl rfl

theorem isAmountChar_of_mem {t : Text} (h : amount.Spells t) :
    ∀ c ∈ t, isAmountChar c = true := by
  obtain ⟨whole, fraction, rfl, ⟨-, hwhole⟩, hfraction⟩ := amount_cases h
  intro c hc
  rcases List.mem_append.1 hc with hc | hc
  · simp [isAmountChar, hwhole c hc]
  · rcases hfraction with rfl | ⟨decimals, rfl, -, hdecimals⟩
    · cases hc
    · rcases List.mem_cons.1 hc with rfl | hc
      · rfl
      · simp [isAmountChar, isFigure, hdecimals c hc]

/-- No amount ends in its point. -/
theorem exists_last_of_amount {t : Text} (h : amount.Spells t) :
    ∃ init c, t = init ++ [c] ∧ isFigure c = true := by
  obtain ⟨whole, fraction, rfl, ⟨hne, hwhole⟩, hfraction⟩ := amount_cases h
  rcases hfraction with rfl | ⟨decimals, rfl, hdecimals, hdigits⟩
  · refine ⟨whole.dropLast, whole.getLast hne, ?_, hwhole _ (List.getLast_mem hne)⟩
    rw [List.append_nil, List.dropLast_append_getLast]
  · refine ⟨whole ++ '.' :: decimals.dropLast, decimals.getLast hdecimals, ?_, ?_⟩
    · rw [List.append_assoc, List.cons_append, List.dropLast_append_getLast]
    · simp [isFigure, hdigits _ (List.getLast_mem hdecimals)]

/-- An amount has neither a sign nor a power of ten. -/
theorem notMem_of_spells_amount {t : Text} (h : amount.Spells t) :
    ∀ c ∈ ['-', '+', 'e', 'E'], c ∉ t := by
  have hother : ∀ c ∈ ['-', '+', 'e', 'E'], isAmountChar c = false :=
    forall_mem_of_all (by decide)
  intro c hc hmem
  simpa [hother c hc] using isAmountChar_of_mem h c hmem

theorem negative_of_spells_amount {t : Text} {x : Dyadic} (h : amount.Spells t)
    (hread : Amount.read? t = some x) : x.negative = false :=
  Amount.negative_read? (notMem_of_spells_amount h '-' (by decide)) hread

theorem spells_amount_of_lotSize {t : Text} (h : lotSize.Captures 2 t) : amount.Spells t := by
  simpa [lotSize, comparison, areaUnit, amount, blanks, anyBlanks, Captures] using h

theorem spells_amount_of_money {t : Text} (h : money.Captures 3 t) : amount.Spells t := by
  simpa [money, comparison, amount, blanks, anyBlanks, Captures] using h

end Vocabulary

namespace Search

theorem isDistrict_of_districtOf {request d : Text}
    (h : districtOf (Text.lower request) = some d) : IsDistrict d := by
  obtain ⟨t, ht, rfl⟩ := Option.map_eq_some_iff.1 h
  obtain ⟨fit, hfit, hgroup⟩ := Option.bind_eq_some_iff.1 ht
  obtain ⟨hcaptures, hpart⟩ := Pattern.captures_of_find hfit hgroup
  exact Vocabulary.isDistrict_of_captures hcaptures fun hmem =>
    Text.kelvin_notMem_lower request (hpart.subset hmem)

theorem nonneg_of_lotAreaOf {lower : Text} {t : Threshold} (h : lotAreaOf lower = some t) :
    t.amount.Nonneg := by
  simp only [lotAreaOf, Option.bind_eq_bind, Option.bind_eq_some_iff] at h
  obtain ⟨fit, hfit, words, _, digits, hdigits, value, hvalue, hthreshold⟩ := h
  cases hthreshold
  obtain ⟨hcaptures, _⟩ := Pattern.captures_of_find hfit hdigits
  have hspells := Vocabulary.spells_amount_of_lotSize hcaptures
  exact Amount.nonneg_inUnit (Vocabulary.negative_of_spells_amount hspells hvalue)

theorem nonneg_of_assessedValueOf {lower : Text} {t : Threshold}
    (h : assessedValueOf lower = some t) : t.amount.Nonneg := by
  simp only [assessedValueOf, Option.bind_eq_bind, Option.bind_eq_some_iff] at h
  obtain ⟨fit, hfit, digits, hdigits, value, hvalue, hthreshold⟩ := h
  cases hthreshold
  obtain ⟨hcaptures, _⟩ :=
    Pattern.captures_of_mem_findAll (List.mem_of_find?_eq_some hfit) hdigits
  have hspells := Vocabulary.spells_amount_of_money hcaptures
  exact Amount.nonneg_inUnit (Vocabulary.negative_of_spells_amount hspells hvalue)

theorem limitOf_bounds (lower : Text) :
    1 ≤ limitOf lower ∧ limitOf lower ≤ Statement.rowCeiling := by
  simp only [limitOf]
  split
  · split_ifs with hzero
    · decide
    · simp only [Statement.rowCeiling]
      omega
  · decide

/-- Every request is read as a search that keeps to the bounds. -/
theorem wellFormed_ofRequest (request : Text) :
    (ofRequest request (Text.lower request)).WellFormed where
  district _ h := isDistrict_of_districtOf h
  lotArea _ h := nonneg_of_lotAreaOf h
  assessedValue _ h := nonneg_of_assessedValueOf h
  one_le_limit := (limitOf_bounds _).1
  limit_le := (limitOf_bounds _).2

end Search

end LotSearch
