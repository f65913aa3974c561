import LotSearch.Proofs.Number.Written
import LotSearch.Proofs.Request.Amounts

/-!
# The thresholds of a statement

The digits and the unit of an amount stand for an exact product.  The amount is the product in
floating-point arithmetic, and it is what the statement compares a column with.  It is as near to
the exact product as the roundings leave it, and a short product is written as it is unless they
have moved the amount to a neighbour of the value nearest to the product.
-/

namespace LotSearch

namespace Vocabulary

theorem approximates_of_spells_amount {digits : Text} {unit : Option Text} {a : Amount}
    (h : amount.Spells digits)
    (hamount : (Amount.read? digits).map (Amount.inUnit unit) = some a) :
    a.Approximates (Text.decimalValue (digits.filter (· != ','))) (Amount.multiplier unit) := by
  obtain ⟨v, hread, rfl⟩ := Option.map_eq_some_iff.1 hamount
  exact Amount.approximates_inUnit hread (notMem_of_spells_amount h) unit

end Vocabulary

namespace Search

variable {lower : Text} {bound : Threshold}

theorem approximates_of_lotAreaOf (h : lotAreaOf lower = some bound) :
    ∃ fit digits, Vocabulary.lotSize.find lower = some fit ∧ fit.groupText? 2 = some digits ∧
      bound.amount.Approximates (Text.decimalValue (digits.filter (· != ',')))
        (Amount.multiplier (fit.groupText? 3)) := by
  obtain ⟨fit, digits, hfit, hdigits, hamount⟩ := exists_fit_of_lotAreaOf h
  obtain ⟨hcaptures, -⟩ := Pattern.captures_of_find hfit hdigits
  refine ⟨fit, digits, hfit, hdigits, ?_⟩
  apply Vocabulary.approximates_of_spells_amount _ hamount
  exact Vocabulary.spells_amount_of_lotSize hcaptures

theorem approximates_of_assessedValueOf (h : assessedValueOf lower = some bound) :
    ∃ fit digits, (Vocabulary.money.findAll lower).find? isMoney = some fit ∧
      fit.groupText? 3 = some digits ∧
      bound.amount.Approximates (Text.decimalValue (digits.filter (· != ',')))
        (Amount.multiplier (fit.groupText? 4)) := by
  obtain ⟨fit, digits, hfit, hdigits, hamount⟩ := exists_fit_of_assessedValueOf h
  obtain ⟨hcaptures, -⟩ :=
    Pattern.captures_of_mem_findAll (List.mem_of_find?_eq_some hfit) hdigits
  refine ⟨fit, digits, hfit, hdigits, ?_⟩
  apply Vocabulary.approximates_of_spells_amount _ hamount
  exact Vocabulary.spells_amount_of_money hcaptures

end Search

/-- A bound on the lot area or on the assessed value compares the column with an amount that
approximates the number in the request, which is what its digits without commas and its unit stand
for. -/
theorem byRules_thresholds_approximate (request : Text) :
    (Understood.byRules request).sql =
        Lots.baseSelect ++ whereClause (Search.read request).conditions ++
          Search.orderClause (Search.read request).intent ++ " LIMIT ".toList ++
          Text.ofInt (Search.read request).limit ∧
      (∀ bound, (Search.read request).lotArea = some bound →
        bound.condition "lotarea" ∈ (Search.read request).conditions ∧
        ∃ fit digits, Vocabulary.lotSize.find (Text.lower request) = some fit ∧
          fit.groupText? 2 = some digits ∧
          bound.amount.Approximates (Text.decimalValue (digits.filter (· != ',')))
            (Amount.multiplier (fit.groupText? 3))) ∧
      ∀ bound, (Search.read request).assessedValue = some bound →
        bound.condition "assesstot" ∈ (Search.read request).conditions ∧
        ∃ fit digits,
          (Vocabulary.money.findAll (Text.lower request)).find? Search.isMoney = some fit ∧
          fit.groupText? 3 = some digits ∧
          bound.amount.Approximates (Text.decimalValue (digits.filter (· != ',')))
            (Amount.multiplier (fit.groupText? 4)) := by
  refine ⟨Search.sql_byRules request, fun bound h => ⟨?_, ?_⟩, fun bound h => ⟨?_, ?_⟩⟩
  · exact Search.condition_mem_of_lotArea h
  · exact Search.approximates_of_lotAreaOf h
  · exact Search.condition_mem_of_assessedValue h
  · exact Search.approximates_of_assessedValueOf h

theorem byRules_thresholds_of_lots :
    (Search.read "lots over 2.5k sq ft under $20 million".toList).lotArea.map
        (fun bound => Text.decimalValue bound.amount.write) = some 2500 ∧
      (Search.read "lots over 2.5k sq ft under $20 million".toList).assessedValue.map
        (fun bound => Text.decimalValue bound.amount.write) = some 20000000 := by
  obtain ⟨-, hlot, hmoney⟩ :=
    byRules_thresholds_approximate "lots over 2.5k sq ft under $20 million".toList
  constructor
  · have hsome : (Search.read "lots over 2.5k sq ft under $20 million".toList).lotArea.isSome := by
      decide +kernel
    obtain ⟨bound, hbound⟩ := Option.isSome_iff_exists.1 hsome
    obtain ⟨-, fit, digits, hfit, hdigits, happrox⟩ := hlot bound hbound
    have hgroups : (Vocabulary.lotSize.find (Text.lower
        "lots over 2.5k sq ft under $20 million".toList)).map
          (fun fit => (fit.groupText? 2, fit.groupText? 3)) =
            some (some "2.5".toList, some "k".toList) := by
      decide +kernel
    rw [hfit, Option.map_some, hdigits, Option.some_inj, Prod.mk.injEq, Option.some_inj] at hgroups
    have hvalue : Text.decimalValue ("2.5".toList.filter (· != ',')) = 5 / 2 := by decide +kernel
    have hthousand : Amount.multiplier (some "k".toList) = 1000 := by decide
    have hdouble : ∃ y : Dyadic, y.IsDouble ∧ y.value = 5 / 2 := by
      refine ⟨⟨false, 5 * 2 ^ 50, -51⟩, ⟨by norm_num, by norm_num, by norm_num, .inl ?_⟩, ?_⟩
      · norm_num
      · norm_num [Dyadic.value_eq]
    rw [hgroups.1, hgroups.2, hvalue, hthousand] at happrox
    have hexact := happrox.decimalValue_eq_natCast (n := 2500) (by norm_num) (by norm_num)
      (.inr hdouble)
    rw [hbound, Option.map_some, hexact, Nat.cast_ofNat]
  · have hsome : (Search.read
        "lots over 2.5k sq ft under $20 million".toList).assessedValue.isSome := by
      decide +kernel
    obtain ⟨bound, hbound⟩ := Option.isSome_iff_exists.1 hsome
    obtain ⟨-, fit, digits, hfit, hdigits, happrox⟩ := hmoney bound hbound
    have hgroups : ((Vocabulary.money.findAll (Text.lower
        "lots over 2.5k sq ft under $20 million".toList)).find? Search.isMoney).map
          (fun fit => (fit.groupText? 3, fit.groupText? 4)) =
            some (some "20".toList, some "million".toList) := by
      decide +kernel
    rw [hfit, Option.map_some, hdigits, Option.some_inj, Prod.mk.injEq, Option.some_inj] at hgroups
    have hvalue : Text.decimalValue ("20".toList.filter (· != ',')) = (20 : ℕ) := by
      decide +kernel
    have hmillion : Amount.multiplier (some "million".toList) = 1000000 := by decide
    rw [hgroups.1, hgroups.2, hvalue, hmillion] at happrox
    have hexact := happrox.decimalValue_eq_natCast (n := 20000000) (by norm_num) (by norm_num)
      (.inr (Dyadic.exists_isDouble_natCast (by norm_num)))
    rw [hbound, Option.map_some, hexact, Nat.cast_ofNat]

/-- Floating-point multiplication by a thousand misses an integer of five digits. -/
theorem threshold_ne_product :
    (Search.read "lots of at least 16.1k sq ft".toList).conditions =
        ["lotarea >= 16100.000000000002".toList] ∧
      (Vocabulary.lotSize.find (Text.lower "lots of at least 16.1k sq ft".toList)).map
          (fun fit => (fit.groupText? 2, fit.groupText? 3)) =
        some (some "16.1".toList, some "k".toList) ∧
      Text.decimalValue "16.1".toList * Amount.multiplier (some "k".toList) = 16100 ∧
      Text.decimalValue "16100.000000000002".toList ≠ 16100 := by
  refine ⟨?_, ?_, ?_, ?_⟩ <;> decide +kernel

end LotSearch
