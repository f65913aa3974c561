import LotSearch.Proofs.Request.Reading
import LotSearch.Proofs.Statement.Harmless
import LotSearch.Request.Statement

/-!
# The conditions of a statement

The conditions of a statement that is built by rules are chosen from a fixed list of forms, each at
most once and in their order.  Every form is harmless whatever the request says, so the statement
has no place for more than what the forms allow.
-/

namespace LotSearch

open Statement

/-! ## Forms of conditions -/

/-- The conditions on the kind of property that are the same for every request. -/
def kindConditions : List String :=
  ["(builtfar < GREATEST(residfar, commfar, facilfar) * 0.5 OR builtfar IS NULL)",
    "(built_status = 'vacant' OR is_vacant = true)",
    "LEFT(bldgclass, 1) IN ('K', 'O', 'L')",
    "LEFT(bldgclass, 1) = 'A'",
    "LEFT(bldgclass, 1) IN ('C', 'D')",
    "LEFT(bldgclass, 1) IN ('A', 'B', 'C', 'D', 'R')",
    "(LEFT(bldgclass, 1) = 'S' OR landuse = '04')",
    "assessland::numeric / NULLIF(assesstot, 0) > 0.7",
    "GREATEST(residfar, commfar, facilfar) > builtfar * 1.5",
    "lotarea > 10000"]

/-- A bound on the year of construction that excludes unknown years. -/
def IsOlderCondition (t : Text) : Prop :=
  ∃ year, t = "yearbuilt < ".toList ++ Text.ofNat year ++ " AND yearbuilt > 0".toList

def IsKindCondition (t : Text) : Prop :=
  t ∈ kindConditions.map String.toList ∨ IsOlderCondition t

def IsBoroughCondition (t : Text) : Prop :=
  ∃ code ∈ ["MN", "BX", "BK", "QN", "SI"],
    t = "borough = '".toList ++ code.toList ++ "'".toList

def IsDistrictCondition (t : Text) : Prop :=
  ∃ d, IsDistrict d ∧ t = "zonedist1 LIKE '".toList ++ d ++ "%'".toList

/-- A comparison of a column with a numeral or with infinity. -/
def IsAmountCondition (column : String) (t : Text) : Prop :=
  ∃ symbol ∈ [" < ", " <= ", " > ", " >= "], ∃ amount,
    (IsNumeral amount ∨ amount = "inf".toList) ∧
      t = column.toList ++ symbol.toList ++ amount

def IsYearCondition (t : Text) : Prop :=
  (∃ year, t = "yearbuilt > ".toList ++ Text.ofNat year) ∨ IsOlderCondition t

/-- The forms of the conditions of a statement, in their order. -/
def conditionForms : List (Text → Prop) :=
  [IsKindCondition, IsBoroughCondition, IsDistrictCondition, IsAmountCondition "lotarea",
    IsAmountCondition "assesstot", IsYearCondition, (· = "is_opportunity_zone = true".toList)]

/-- Texts that are chosen from forms in order, at most one of each form. -/
inductive Chosen : List (Text → Prop) → List Text → Prop
  | nil : Chosen [] []
  | skip {form : Text → Prop} {forms : List (Text → Prop)} {texts : List Text}
      (h : Chosen forms texts) : Chosen (form :: forms) texts
  | take {form : Text → Prop} {forms : List (Text → Prop)} {t : Text} {texts : List Text}
      (ht : form t) (h : Chosen forms texts) : Chosen (form :: forms) (t :: texts)

namespace Chosen

variable {form : Text → Prop} {forms : List (Text → Prop)} {texts : List Text}

theorem option {o : Option Text} (ho : ∀ t ∈ o, form t) (h : Chosen forms texts) :
    Chosen (form :: forms) (o.toList ++ texts) := by
  cases o with
  | none => exact .skip h
  | some t => exact .take (ho t rfl) h

theorem append {forms' : List (Text → Prop)} {texts' : List Text} (h : Chosen forms texts)
    (h' : Chosen forms' texts') : Chosen (forms ++ forms') (texts ++ texts') := by
  induction h with
  | nil => exact h'
  | skip _ ih => exact .skip ih
  | take ht _ ih => exact .take ht ih

theorem forall_mem {p : Text → Prop} (h : Chosen forms texts)
    (hp : ∀ form ∈ forms, ∀ t, form t → p t) : ∀ t ∈ texts, p t := by
  induction h with
  | nil => simp
  | skip _ ih => exact ih fun form hform => hp form (List.mem_cons_of_mem _ hform)
  | take ht _ ih =>
      refine List.forall_mem_cons.2 ⟨hp _ List.mem_cons_self _ ht, ?_⟩
      exact ih fun form hform => hp form (List.mem_cons_of_mem _ hform)

end Chosen

/-! ## The conditions of a search -/

theorem mem_kindConditions_of_condition? {intent : Intent} {t : Text}
    (hkind : intent.isHistoric = false) (h : intent.condition? = some t) :
    t ∈ kindConditions.map String.toList := by
  have hmem : ∀ form ∈ kindConditions, form.toList = t → t ∈ kindConditions.map String.toList :=
    fun form hform heq => List.mem_map.2 ⟨form, hform, heq⟩
  cases intent with
  | historic before => cases hkind
  | unrecognized => cases h
  | underdeveloped =>
      have hfront : "(builtfar < ".toList ++ Lots.maxFar.toList =
          "(builtfar < GREATEST(residfar, commfar, facilfar)".toList := Text.append_literal rfl
      have hwhole :
          "(builtfar < ".toList ++ Lots.maxFar.toList ++ " * 0.5 OR builtfar IS NULL)".toList =
            "(builtfar < GREATEST(residfar, commfar, facilfar) * 0.5 OR builtfar IS NULL)".toList :=
        (congrArg (· ++ _) hfront).trans (Text.append_literal rfl)
      exact hmem _ (by simp [kindConditions]) (hwhole.symm.trans (Option.some.inj h))
  | highLandValue =>
      have hwhole : Lots.valueRatio.toList ++ " > 0.7".toList =
          "assessland::numeric / NULLIF(assesstot, 0) > 0.7".toList := Text.append_literal rfl
      exact hmem _ (by simp [kindConditions]) (hwhole.symm.trans (Option.some.inj h))
  | airRights =>
      have hwhole : Lots.maxFar.toList ++ " > builtfar * 1.5".toList =
          "GREATEST(residfar, commfar, facilfar) > builtfar * 1.5".toList := Text.append_literal rfl
      exact hmem _ (by simp [kindConditions]) (hwhole.symm.trans (Option.some.inj h))
  | residential homes =>
      cases homes <;> exact hmem _ (by simp [kindConditions]) (Option.some.inj h)
  | _ => exact hmem _ (by simp [kindConditions]) (Option.some.inj h)

theorem isKindCondition_of_condition? {intent : Intent} {t : Text}
    (h : intent.condition? = some t) : IsKindCondition t := by
  cases intent with
  | historic before =>
      cases h
      exact .inr ⟨before, rfl⟩
  | _ => exact .inl (mem_kindConditions_of_condition? rfl h)

theorem isAmountCondition {t : Threshold} (column : String) (h : t.amount.Nonneg) :
    IsAmountCondition column (t.condition column) := by
  have hsymbol : ∀ c : Comparison, " ".toList ++ c.symbol.toList ++ " ".toList ∈
      [" < ", " <= ", " > ", " >= "].map String.toList := by
    intro c
    cases c <;> decide
  obtain ⟨symbol, hmem, heq⟩ := List.mem_map.1 (hsymbol t.comparison)
  refine ⟨symbol, hmem, t.amount.write, Amount.write_of_nonneg h, ?_⟩
  rw [heq]
  simp [Threshold.condition]

theorem isYearCondition (bound : YearBound) : IsYearCondition bound.condition := by
  cases bound with
  | newerThan year => exact .inl ⟨year, rfl⟩
  | olderThan year => exact .inr ⟨year, rfl⟩

namespace Search

/-- The conditions on where a lot is, how large it is and what it is worth. -/
def lotFilters (s : Search) : List Text :=
  (s.borough.map fun b => "borough = '".toList ++ b.code.toList ++ ['\'']).toList
    ++ ((s.district.map fun d => "zonedist1 LIKE '".toList ++ d ++ "%'".toList).toList
    ++ ((s.lotArea.map (Threshold.condition "lotarea")).toList
    ++ ((s.assessedValue.map (Threshold.condition "assesstot")).toList ++ [])))

def zoneFilters (s : Search) : List Text :=
  if s.opportunityZone then ["is_opportunity_zone = true".toList] else []

theorem conditions_eq (s : Search) :
    s.conditions = s.intent.condition?.toList ++
      (s.lotFilters ++ ((s.yearBuilt.map YearBound.condition).toList ++ s.zoneFilters)) := by
  simp only [conditions, filters, lotFilters, zoneFilters, List.append_assoc, List.append_nil]

theorem WellFormed.chosen_lotFilters {s : Search} (h : s.WellFormed) :
    Chosen [IsBoroughCondition, IsDistrictCondition, IsAmountCondition "lotarea",
      IsAmountCondition "assesstot"] s.lotFilters := by
  have hborough : ∀ t ∈ s.borough.map fun b => "borough = '".toList ++ b.code.toList ++ ['\''],
      IsBoroughCondition t := by
    intro t ht
    obtain ⟨b, _, rfl⟩ := Option.map_eq_some_iff.1 ht
    exact ⟨b.code, by cases b <;> decide, rfl⟩
  have hdistrict : ∀ t ∈ s.district.map fun d => "zonedist1 LIKE '".toList ++ d ++ "%'".toList,
      IsDistrictCondition t := by
    intro t ht
    obtain ⟨d, hd, rfl⟩ := Option.map_eq_some_iff.1 ht
    exact ⟨d, h.district d hd, rfl⟩
  have hlot : ∀ t ∈ s.lotArea.map (Threshold.condition "lotarea"),
      IsAmountCondition "lotarea" t := by
    intro t ht
    obtain ⟨threshold, hthreshold, rfl⟩ := Option.map_eq_some_iff.1 ht
    exact isAmountCondition "lotarea" (h.lotArea threshold hthreshold)
  have hvalue : ∀ t ∈ s.assessedValue.map (Threshold.condition "assesstot"),
      IsAmountCondition "assesstot" t := by
    intro t ht
    obtain ⟨threshold, hthreshold, rfl⟩ := Option.map_eq_some_iff.1 ht
    exact isAmountCondition "assesstot" (h.assessedValue threshold hthreshold)
  exact .option hborough <| .option hdistrict <| .option hlot <| .option hvalue .nil

/-- The conditions of a search that keeps to its bounds have the forms, in their order. -/
theorem WellFormed.chosen_conditions {s : Search} (h : s.WellFormed) :
    Chosen conditionForms s.conditions := by
  have hyear : ∀ t ∈ s.yearBuilt.map YearBound.condition, IsYearCondition t := by
    intro t ht
    obtain ⟨bound, _, rfl⟩ := Option.map_eq_some_iff.1 ht
    exact isYearCondition bound
  have hzone : Chosen [(· = "is_opportunity_zone = true".toList)] s.zoneFilters := by
    rw [zoneFilters]
    split_ifs
    · exact .take rfl .nil
    · exact .skip .nil
  rw [conditions_eq]
  exact .option (fun _ => isKindCondition_of_condition?) <|
    h.chosen_lotFilters.append <| .option hyear hzone

end Search

/-! ## Harmless conditions -/

theorem harmless_ofNat (n : Nat) : Harmless (Text.ofNat n) := by
  apply Harmless.of_plain
  intro c hc hmem
  have hbad : ∀ d ∈ '\'' :: '-' :: breakingChars, isAsciiDigit d = false :=
    forall_mem_of_all (by decide)
  exact Text.notMem_ofNat (hbad c hmem) n hc

theorem IsNumeral.harmless {t : Text} (h : IsNumeral t) : Harmless t := by
  apply Harmless.of_plain
  intro c hc hmem
  have hbad : ∀ d ∈ '\'' :: '-' :: breakingChars, isAsciiDigit d = false ∧ d ≠ '.' :=
    forall_mem_of_all (by decide)
  rcases h.mem hc with hdigit | hpoint
  · simp [(hbad c hmem).1] at hdigit
  · exact (hbad c hmem).2 hpoint

theorem IsOlderCondition.harmless {t : Text} (h : IsOlderCondition t) : Harmless t := by
  obtain ⟨year, rfl⟩ := h
  have hbefore : Harmless "yearbuilt < ".toList := by decide
  have hafter : Harmless " AND yearbuilt > 0".toList := by decide
  exact (hbefore.append (harmless_ofNat year)).append hafter

/-- A district holds at most one hyphen, behind a digit. -/
theorem IsDistrict.harmless {d : Text} (h : IsDistrict d) : Harmless d := by
  obtain ⟨letter, digit, hyphen, second, rfl, hletter, hdigit, hhyphen, hsecond⟩ := h
  have hbad : ∀ c ∈ '\'' :: '-' :: breakingChars,
      ¬ ('A' ≤ c ∧ c ≤ 'Z') ∧ isDigit c = false := forall_mem_of_all (by decide)
  have hdigits : ∀ c, isDigit c = true → c ∉ '\'' :: '-' :: breakingChars := by
    intro c hc hmem
    exact Bool.false_ne_true ((hbad c hmem).2.symm.trans hc)
  have hfirst : Harmless [letter, digit] := by
    apply Harmless.of_plain
    intro c hc
    rcases List.mem_pair.1 hc with rfl | rfl
    · intro hmem
      exact (hbad c hmem).1 hletter
    · exact hdigits c hdigit
  have hsecond : Harmless second := by
    rcases hsecond with rfl | ⟨c, rfl, hc⟩
    · exact .nil
    · exact .of_plain (by simpa using hdigits c hc)
  rcases hhyphen with rfl | rfl
  · exact hfirst.append hsecond
  · exact .append_hyphen (s := [letter]) hfirst (ne_of_class hdigit (by decide)) hsecond

theorem IsDistrictCondition.harmless {t : Text} (h : IsDistrictCondition t) : Harmless t := by
  obtain ⟨d, hd, rfl⟩ := h
  have hliteral : Harmless ("zonedist1 LIKE '".toList ++ "%'".toList) := by decide
  exact hliteral.insert hd.harmless (by decide)

theorem IsAmountCondition.harmless {column : String} {t : Text} (hcolumn : Harmless column.toList)
    (h : IsAmountCondition column t) : Harmless t := by
  obtain ⟨symbol, hsymbol, amount, hamount, rfl⟩ := h
  have hsymbols : ∀ s ∈ [" < ", " <= ", " > ", " >= "], Harmless s.toList := by decide
  apply (hcolumn.append (hsymbols symbol hsymbol)).append
  rcases hamount with hnumeral | rfl
  · exact hnumeral.harmless
  · decide

theorem harmless_kindConditions : ∀ form ∈ kindConditions, Harmless form.toList := by
  simp only [kindConditions, List.forall_mem_cons]
  refine ⟨?_, ?_, ?_, ?_, ?_, ?_, ?_, ?_, ?_, ?_, List.forall_mem_nil _⟩ <;>
    exact Text.of_literal (p := Harmless) (by decide +kernel)

theorem harmless_of_conditionForms : ∀ form ∈ conditionForms, ∀ t, form t → Harmless t := by
  simp only [conditionForms, List.forall_mem_cons]
  refine ⟨?kind, ?borough, ?district, ?lotArea, ?assessedValue, ?year, ?zone, by simp⟩
  case kind =>
    rintro t (hfixed | holder)
    · obtain ⟨form, hform, rfl⟩ := List.mem_map.1 hfixed
      exact harmless_kindConditions form hform
    · exact holder.harmless
  case borough =>
    rintro t ⟨code, hcode, rfl⟩
    have hcodes : ∀ c ∈ ["MN", "BX", "BK", "QN", "SI"],
        Harmless ("borough = '".toList ++ c.toList ++ "'".toList) := by decide
    exact hcodes code hcode
  case district => exact fun t h => h.harmless
  case lotArea => exact fun t h => h.harmless (by decide)
  case assessedValue => exact fun t h => h.harmless (by decide)
  case year =>
    rintro t (⟨year, rfl⟩ | holder)
    · have hbefore : Harmless "yearbuilt > ".toList := by decide
      exact hbefore.append (harmless_ofNat year)
    · exact holder.harmless
  case zone =>
    rintro t rfl
    decide

end LotSearch
