import LotSearch.Proofs.Request.Statement
import LotSearch.Proofs.Text.Delimited
import LotSearch.Proofs.Text.Occurrence

/-!
# The year of construction

A request that gives a year of construction gets a condition on it.  The kind of property can
already be such a condition; then a year that is an upper bound adds none, and what stands in the
statement is the year of the kind, which is read from another phrase.
-/

namespace LotSearch

open Text

namespace Text

theorem ofNat_injective : Function.Injective ofNat := by
  intro m n h
  have hread := congrArg natural? h
  simpa using hread

/-- A written number ends where its digits end. -/
theorem ofNat_prefix_iff {m n : Nat} {c : Char} {s t : Text} (hc : isAsciiDigit c = false) :
    ofNat m ++ c :: s <+: ofNat n ++ c :: t ↔ m = n ∧ s <+: t := by
  have hdigits : ∀ (k : Nat) (u : Text), (ofNat k ++ c :: u).takeWhile isAsciiDigit = ofNat k := by
    intro k u
    exact takeWhile_append_of_class (fun _ => isAsciiDigit_of_mem_ofNat) (by simp [hc])
  constructor
  · rintro ⟨r, hr⟩
    have hsame : m = n := by
      apply ofNat_injective
      rw [← hdigits n t, ← hr, List.append_assoc, List.cons_append, hdigits]
    subst hsame
    rw [List.append_assoc] at hr
    obtain ⟨-, htail⟩ := List.cons.inj (List.append_cancel_left hr)
    exact ⟨rfl, r, htail⟩
  · rintro ⟨rfl, hprefix⟩
    rw [List.prefix_append_right_inj]
    exact (List.prefix_cons_inj c).2 hprefix

end Text

/-- The condition that holds of earlier years, without its first letter. -/
theorem olderThan_condition (year : Nat) : (YearBound.olderThan year).condition =
    'y' :: ("earbuilt < ".toList ++ (ofNat year ++ ' ' :: "AND yearbuilt > 0".toList)) := by
  have hfirst : "yearbuilt < ".toList = 'y' :: "earbuilt < ".toList := by decide
  have hsecond : " AND yearbuilt > 0".toList = ' ' :: "AND yearbuilt > 0".toList := by decide
  calc (YearBound.olderThan year).condition
    _ = "yearbuilt < ".toList ++ ofNat year ++ " AND yearbuilt > 0".toList := rfl
    _ = 'y' :: ("earbuilt < ".toList ++ (ofNat year ++ ' ' :: "AND yearbuilt > 0".toList)) := by
      rw [hfirst, hsecond]
      simp only [List.cons_append, List.append_assoc]

/-! ## Conditions without a bound on the year -/

theorem letter_notMem_of_isKindCondition {t : Text}
    (h : t ∈ kindConditions.map String.toList) : 'y' ∉ t := by
  have hkinds : ∀ form ∈ kindConditions, 'y' ∉ form.toList := by
    simp only [kindConditions, List.forall_mem_cons]
    refine ⟨?_, ?_, ?_, ?_, ?_, ?_, ?_, ?_, ?_, ?_, List.forall_mem_nil _⟩ <;>
      exact Text.of_literal (p := ('y' ∉ ·)) (by decide)
  obtain ⟨form, hform, rfl⟩ := List.mem_map.1 h
  exact hkinds form hform

theorem letter_notMem_of_isBoroughCondition {t : Text} (h : IsBoroughCondition t) : 'y' ∉ t := by
  obtain ⟨code, hcode, rfl⟩ := h
  have hcodes : ∀ code ∈ ["MN", "BX", "BK", "QN", "SI"],
      'y' ∉ "borough = '".toList ++ code.toList ++ "'".toList := by decide
  exact hcodes code hcode

theorem letter_notMem_of_isDistrictCondition {t : Text} (h : IsDistrictCondition t) :
    'y' ∉ t := by
  obtain ⟨d, ⟨letter, digit, hyphen, second, rfl, hletter, hdigit, hhyphen, hsecond⟩, rfl⟩ := h
  have hfirst : 'y' ≠ letter := by
    rintro rfl
    exact absurd hletter (by decide)
  have hhyphens : 'y' ∉ hyphen := by
    rcases hhyphen with rfl | rfl <;> decide
  have hseconds : 'y' ∉ second := by
    rcases hsecond with rfl | ⟨c, rfl, hc⟩
    · decide
    · rw [List.mem_singleton]
      rintro rfl
      exact absurd hc (by decide)
  have hdigits : 'y' ≠ digit := by
    rintro rfl
    exact absurd hdigit (by decide)
  have hwords : 'y' ∉ "zonedist1 LIKE '".toList ∧ 'y' ∉ "%'".toList := by decide
  simp only [List.mem_append, List.mem_cons, not_or]
  exact ⟨⟨hwords.1, hfirst, hdigits, hhyphens, hseconds⟩, hwords.2⟩

theorem letter_notMem_of_isAmountCondition {column : String} {t : Text}
    (hcolumn : 'y' ∉ column.toList) (h : IsAmountCondition column t) : 'y' ∉ t := by
  obtain ⟨symbol, hsymbol, amount, hamount, rfl⟩ := h
  have hsymbols : ∀ symbol ∈ [" < ", " <= ", " > ", " >= "], 'y' ∉ symbol.toList := by decide
  have hnumeral : 'y' ∉ amount := by
    rcases hamount with hnumeral | rfl
    · intro hmem
      rcases hnumeral.mem hmem with hdigit | hpoint
      · exact absurd hdigit (by decide)
      · exact absurd hpoint (by decide)
    · decide
  simp only [List.mem_append, not_or]
  exact ⟨⟨hcolumn, hsymbols symbol hsymbol⟩, hnumeral⟩

namespace Search

theorem WellFormed.letter_notMem_lotFilters {s : Search} (h : s.WellFormed) :
    ∀ t ∈ s.lotFilters, 'y' ∉ t := by
  apply h.chosen_lotFilters.forall_mem (p := fun t => 'y' ∉ t)
  simp only [List.forall_mem_cons]
  refine ⟨?borough, ?district, ?lotArea, ?assessedValue, by simp⟩
  case borough => exact fun t => letter_notMem_of_isBoroughCondition
  case district => exact fun t => letter_notMem_of_isDistrictCondition
  case lotArea => exact fun t => letter_notMem_of_isAmountCondition (by decide)
  case assessedValue => exact fun t => letter_notMem_of_isAmountCondition (by decide)

theorem aside_zoneFilters (s : Search) : ∀ t ∈ s.zoneFilters, Aside "yearbuilt <".toList t := by
  intro t ht
  rw [zoneFilters] at ht
  split_ifs at ht
  · obtain rfl := List.mem_singleton.1 ht
    exact .of_asideOf (by decide)
  · cases ht

end Search

theorem occursOnce_olderThan_iff (front : List Text) {back : List Text} {before year : Nat}
    (hfront : ∀ t ∈ front, 'y' ∉ t) (hback : ∀ t ∈ back, Aside "yearbuilt <".toList t) :
    OccursOnce (YearBound.olderThan year).condition
      (whereClause (front ++ (YearBound.olderThan before).condition :: back)) ↔ before = year := by
  have hmarked : ∀ {t : Text}, Aside "yearbuilt <".toList t →
      Aside (YearBound.olderThan year).condition t := by
    intro t ht
    have h := ht.extend (' ' :: (ofNat year ++ " AND yearbuilt > 0".toList))
    exact h
  -- most pieces do not even have the first letter; the others have the column but not `<` behind it
  have hplain : ∀ {t : Text}, 'y' ∉ t → Aside (YearBound.olderThan year).condition t := by
    intro t ht
    rw [olderThan_condition]
    exact .of_notMem ht
  have hbefore : Aside (YearBound.olderThan year).condition
      (" WHERE ".toList ++ front.flatMap (· ++ " AND ".toList)) := by
    apply (hplain (by decide)).append
    apply Aside.flatMap
    intro t ht
    exact (hplain (hfront t ht)).append (hplain (by decide))
  have hafter : Aside (YearBound.olderThan year).condition
      ("earbuilt < ".toList ++ (ofNat before ++ ' ' :: "AND yearbuilt > 0".toList) ++
        back.flatMap (" AND ".toList ++ ·)) := by
    have hnumber : Aside (YearBound.olderThan year).condition (ofNat before) :=
      hplain (notMem_ofNat (by decide) before)
    have hrest : Aside (YearBound.olderThan year).condition (' ' :: "AND yearbuilt > 0".toList) :=
      hmarked (.of_asideOf (by decide))
    apply ((hplain (by decide)).append (hnumber.append hrest)).append
    apply Aside.flatMap
    intro t ht
    exact (hplain (by decide)).append (hmarked (hback t ht))
  have hne : (YearBound.olderThan year).condition ≠ [] := by
    rw [olderThan_condition]
    exact List.cons_ne_nil _ _
  rw [whereClause_append, olderThan_condition before, List.append_assoc, List.cons_append,
    occursOnce_iff hbefore hafter hne, olderThan_condition year, List.prefix_cons_inj,
    List.append_assoc, List.prefix_append_right_inj, List.append_assoc, List.cons_append,
    ofNat_prefix_iff (by decide)]
  simp [eq_comm]

/-! ## The year of a request -/

namespace Search

/-- The words and the year of the first phrase about the time of construction. -/
def yearPhrase? (lower : Text) : Option (Text × Nat) := do
  let fit ← Vocabulary.yearBuilt.find lower
  let words ← fit.groupText? 1
  let year ← Intent.year? (← fit.groupText? 2)
  return (words, year)

variable {lower words : Text} {intent : Intent} {year : Nat}

theorem yearBuiltOf_eq (h : yearPhrase? lower = some (words, year)) :
    yearBuiltOf intent lower =
      if words ∈ Vocabulary.newerPhrases.map String.toList then some (.newerThan year)
      else if intent.isHistoric then none else some (.olderThan year) := by
  simp only [yearPhrase?, Option.bind_eq_bind, Option.bind_eq_some_iff] at h
  obtain ⟨fit, hfit, words', hwords, digits, hdigits, year', hyear, hphrase⟩ := h
  cases hphrase
  simp only [yearBuiltOf, hfit, hwords, hdigits, hyear, Option.bind_eq_bind, Option.bind_some,
    List.contains_iff_mem, Option.pure_def]

/-- The year of the phrase stands in the conditions, unless the kind of property takes the year
of another phrase. -/
theorem occursOnce_olderThan_conditions {s : Search} (hwell : s.WellFormed)
    (hyear : s.yearBuilt = if s.intent.isHistoric then none else some (.olderThan year)) :
    OccursOnce (YearBound.olderThan year).condition (whereClause s.conditions) ↔
      ∀ before, s.intent = .historic before → before = year := by
  have hfront := hwell.letter_notMem_lotFilters
  cases hkind : s.intent.isHistoric with
  | false =>
      rw [hkind, if_neg Bool.false_ne_true] at hyear
      have hconditions : s.conditions = (s.intent.condition?.toList ++ s.lotFilters) ++
          (YearBound.olderThan year).condition :: s.zoneFilters := by
        rw [conditions_eq, hyear, List.append_assoc]
        rfl
      have hno : ∀ before, s.intent ≠ .historic before := by
        rintro before heq
        simp [heq, Intent.isHistoric] at hkind
      have hbefore : ∀ t ∈ s.intent.condition?.toList ++ s.lotFilters, 'y' ∉ t := by
        intro t ht
        rcases List.mem_append.1 ht with hkindOf | hlot
        · apply letter_notMem_of_isKindCondition
          exact mem_kindConditions_of_condition? hkind (Option.mem_toList.1 hkindOf)
        · exact hfront t hlot
      rw [hconditions, occursOnce_olderThan_iff _ hbefore s.aside_zoneFilters]
      simp [hno]
  | true =>
      obtain ⟨before, hintent⟩ : ∃ before, s.intent = .historic before := by
        cases hintent : s.intent with
        | historic before => exact ⟨before, rfl⟩
        | _ => simp [hintent, Intent.isHistoric] at hkind
      rw [hkind, if_pos rfl] at hyear
      have hconditions : s.conditions =
          [] ++ (YearBound.olderThan before).condition :: (s.lotFilters ++ s.zoneFilters) := by
        rw [conditions_eq, hyear, hintent]
        rfl
      have hbehind : ∀ t ∈ s.lotFilters ++ s.zoneFilters, Aside "yearbuilt <".toList t := by
        intro t ht
        rcases List.mem_append.1 ht with hlot | hzone
        · exact .of_notMem (hfront t hlot)
        · exact s.aside_zoneFilters t hzone
      rw [hconditions, occursOnce_olderThan_iff [] (by simp) hbehind, hintent]
      simp

end Search

/-- The first phrase about the time of construction bounds it in the statement for the request.
An earlier time stands there once, except when the kind of property is bounded by another year:
then the phrase is passed over. -/
theorem byRules_yearBuilt {request words : Text} {year : Nat}
    (hphrase : Search.yearPhrase? (Text.lower request) = some (words, year)) :
    (Understood.byRules request).sql =
        Lots.baseSelect ++ whereClause (Search.read request).conditions ++
          Search.orderClause (Search.read request).intent ++ " LIMIT ".toList ++
          Text.ofInt (Search.read request).limit ∧
      (words ∈ Vocabulary.newerPhrases.map String.toList →
        "yearbuilt > ".toList ++ Text.ofNat year ∈ (Search.read request).conditions) ∧
      (words ∉ Vocabulary.newerPhrases.map String.toList →
        (OccursOnce ("yearbuilt < ".toList ++ Text.ofNat year ++ " AND yearbuilt > 0".toList)
            (whereClause (Search.read request).conditions) ↔
          ∀ before, (Search.read request).intent = .historic before → before = year)) := by
  have hbound : (Search.read request).yearBuilt = _ := Search.yearBuiltOf_eq hphrase
  refine ⟨Search.sql_byRules request, ?newer, ?older⟩
  case newer =>
    intro hnewer
    rw [if_pos hnewer] at hbound
    rw [Search.conditions_eq, hbound]
    change (YearBound.newerThan year).condition ∈ _
    simp
  case older =>
    intro holder
    rw [if_neg holder] at hbound
    exact Search.occursOnce_olderThan_conditions (Search.wellFormed_ofRequest request) hbound

theorem byRules_yearBuilt_landmarks :
    Search.yearPhrase? (Text.lower "landmarks built before 1900".toList) =
        some ("built before".toList, 1900) ∧
      OccursOnce ("yearbuilt < ".toList ++ Text.ofNat 1900 ++ " AND yearbuilt > 0".toList)
        (whereClause (Search.read "landmarks built before 1900".toList).conditions) := by
  have hphrase : Search.yearPhrase? (Text.lower "landmarks built before 1900".toList) =
      some ("built before".toList, 1900) := by decide +kernel
  have hintent : (Search.read "landmarks built before 1900".toList).intent = .historic 1900 := by
    decide +kernel
  refine ⟨hphrase, ((byRules_yearBuilt hphrase).2.2 (by decide)).2 ?_⟩
  rintro before hbefore
  rw [hintent] at hbefore
  cases hbefore
  rfl

/-- The kind takes the year of the first phrase for an earlier time, which need not be one about
the time of construction. -/
theorem not_occursOnce_olderThan :
    Search.yearPhrase? (Text.lower "landmarks listed before 1965 and built before 1900".toList) =
        some ("built before".toList, 1900) ∧
      (Search.read "landmarks listed before 1965 and built before 1900".toList).conditions =
        ["yearbuilt < 1965 AND yearbuilt > 0".toList] ∧
      ¬ OccursOnce ("yearbuilt < ".toList ++ Text.ofNat 1900 ++ " AND yearbuilt > 0".toList)
        (whereClause
          (Search.read "landmarks listed before 1965 and built before 1900".toList).conditions) := by
  have hconditions :
      (Search.read "landmarks listed before 1965 and built before 1900".toList).conditions =
        [(YearBound.olderThan 1965).condition] := by decide +kernel
  refine ⟨by decide +kernel, by decide +kernel, ?_⟩
  intro honce
  rw [hconditions] at honce
  have hsame := (occursOnce_olderThan_iff [] (by simp) (by simp)).1 honce
  cases hsame

end LotSearch
