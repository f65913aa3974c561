import LotSearch.Proofs.Request.Statement
import LotSearch.Proofs.Text.Located

/-!
# Kinds of homes

A request about homes is narrowed to homes of one or of several families, but only once it has a
word for homes.  Most phrases for a kind of homes are such words as well.  The others name the
form of the building, and a request that has nothing more is not taken to be about homes.
-/

namespace LotSearch

open Pattern

/-! ## Phrases -/

namespace Vocabulary

variable {t : Text}

/-- The phrases for a kind of homes that name the form of the building and are no words for
homes. -/
def homesByForm : Pattern := wholeWords <| anyOf
  ["detached", joinedCompound "walk" "up" ++ optional "s", plural "elevator building"]

/-- Every phrase for a kind of homes is a word for homes, or names the form of the building. -/
theorem residential_or_homesByForm
    (h : singleFamily.occursIn t = true ∨ multiFamily.occursIn t = true) :
    residential.occursIn t = true ∨ homesByForm.occursIn t = true := by
  rcases h with hsingle | hmulti
  · exact occursIn_wholeWords_of_subset (by simp) hsingle
  · exact occursIn_wholeWords_of_subset (by simp) hmulti

theorem singleFamily_or_multiFamily (h : homesByForm.occursIn t = true) :
    singleFamily.occursIn t = true ∨ multiFamily.occursIn t = true :=
  occursIn_wholeWords_of_subset (by simp) h

end Vocabulary

/-! ## The first condition of a statement -/

/-- Whether a condition stands right behind the common query and the word for conditions, up to
the next condition, the order or the bound. -/
def HasFirstCondition (sql condition : Text) : Prop :=
  ∃ rest, sql = Lots.baseSelect ++ " WHERE ".toList ++ condition ++ rest ∧
    (" AND ".toList <+: rest ∨ " ORDER BY ".toList <+: rest ∨ " LIMIT ".toList <+: rest)

namespace Search

variable {request condition : Text}

theorem hasFirstCondition_of_conditions {others : List Text}
    (h : (read request).conditions = condition :: others) :
    HasFirstCondition (Understood.byRules request).sql condition := by
  refine ⟨others.flatMap (" AND ".toList ++ ·) ++ (orderClause (read request).intent ++
    (" LIMIT ".toList ++ Text.ofInt (read request).limit)), ?_, ?_⟩
  · rw [sql_byRules, h, whereClause_cons]
    simp only [List.append_assoc]
  · cases others with
    | cons next others =>
        rw [List.flatMap_cons, List.append_assoc, List.append_assoc]
        exact .inl (List.prefix_append _ _)
    | nil =>
        rw [List.flatMap_nil, List.nil_append]
        rcases isOrderClause_orderClause (read request).intent with horder | ⟨key, -, horder⟩
        · rw [horder, List.nil_append]
          exact .inr (.inr (List.prefix_append _ _))
        · rw [horder, List.append_assoc]
          exact .inr (.inl (List.prefix_append _ _))

theorem exists_of_hasFirstCondition
    (h : HasFirstCondition (Understood.byRules request).sql condition) :
    ∃ first others more rest, (read request).conditions = first :: others ∧
      first ++ more = condition ++ rest := by
  obtain ⟨rest, hsql, -⟩ := h
  rw [sql_byRules] at hsql
  simp only [List.append_assoc] at hsql
  have hbehind := List.append_cancel_left hsql
  cases hconditions : (read request).conditions with
  | nil =>
      -- neither " ORDER BY " nor " LIMIT " begins as " WHERE " does
      rw [hconditions] at hbehind
      rcases isOrderClause_orderClause (read request).intent with horder | ⟨key, -, horder⟩
      all_goals
        rw [horder] at hbehind
        cases hbehind
  | cons first others =>
      rw [hconditions, whereClause_cons] at hbehind
      simp only [List.append_assoc] at hbehind
      exact ⟨first, others, _, rest, rfl, List.append_cancel_left hbehind⟩

theorem beginsOtherwise_filters (s : Search) :
    ∀ t ∈ s.filters, t.head?.any (· != 'L') = true := by
  simp only [filters, List.forall_mem_append]
  refine ⟨⟨⟨⟨⟨?borough, ?district⟩, ?lotArea⟩, ?assessedValue⟩, ?yearBuilt⟩, ?zone⟩
  case borough | district | lotArea | assessedValue =>
    intro t ht
    obtain ⟨_, -, rfl⟩ := Option.map_eq_some_iff.1 (Option.mem_toList.1 ht)
    rfl
  case yearBuilt =>
    intro t ht
    obtain ⟨bound, -, rfl⟩ := Option.map_eq_some_iff.1 (Option.mem_toList.1 ht)
    cases bound <;> rfl
  case zone =>
    intro t ht
    split_ifs at ht
    · obtain rfl := List.mem_singleton.1 ht
      rfl
    · cases ht

/-- Only the conditions for commercial lots and for homes begin with the letter `L`. -/
theorem beginsOtherwise_conditions {s : Search} (hcommercial : s.intent ≠ .commercial)
    (hresidential : ∀ homes, s.intent ≠ .residential homes) :
    ∀ t ∈ s.conditions, t.head?.any (· != 'L') = true := by
  rw [conditions, List.forall_mem_append]
  refine ⟨?_, s.beginsOtherwise_filters⟩
  intro t ht
  cases hintent : s.intent with
  | commercial => exact absurd hintent hcommercial
  | residential homes => exact absurd hintent (hresidential homes)
  | unrecognized =>
      rw [hintent] at ht
      cases ht
  | _ =>
      rw [hintent] at ht
      obtain rfl := Option.some.inj (Option.mem_toList.1 ht)
      rfl

theorem not_hasFirstCondition {letters : Text} (hcommercial : (read request).intent ≠ .commercial)
    (hresidential : ∀ homes, (read request).intent ≠ .residential homes) :
    ¬ HasFirstCondition (Understood.byRules request).sql ('L' :: letters) := by
  intro hfirst
  obtain ⟨first, others, more, rest, hconditions, hsame⟩ := exists_of_hasFirstCondition hfirst
  have hbegins := beginsOtherwise_conditions hcommercial hresidential first
    (by simp [hconditions])
  cases first with
  | nil => cases hbegins
  | cons c first =>
      obtain ⟨rfl, -⟩ := List.cons.inj hsame
      cases hbegins

end Search

/-! ## Requests for a kind of homes -/

/-- Whether the phrases for a kind of homes decide the first condition of the statement, those for
one family before those for several. -/
structure NarrowsHomes (request : Text) : Prop where
  singleFamily : Vocabulary.singleFamily.occursIn (Text.lower request) = true →
    HasFirstCondition (Understood.byRules request).sql "LEFT(bldgclass, 1) = 'A'".toList
  multiFamily : Vocabulary.singleFamily.occursIn (Text.lower request) = false →
    Vocabulary.multiFamily.occursIn (Text.lower request) = true →
      HasFirstCondition (Understood.byRules request).sql "LEFT(bldgclass, 1) IN ('C', 'D')".toList

section

variable {request : Text}
  (hunderdeveloped : Vocabulary.underdeveloped.occursIn (Text.lower request) = false)
  (hvacant : Vocabulary.vacant.occursIn (Text.lower request) = false)
  (hcommercial : Vocabulary.commercial.occursIn (Text.lower request) = false)

include hunderdeveloped hvacant hcommercial

theorem intent_of_residential
    (hresidential : Vocabulary.residential.occursIn (Text.lower request) = true) :
    (Search.read request).intent = .residential (Intent.homes (Text.lower request)) := by
  change Intent.ofLower (Text.lower request) = _
  simp only [Intent.ofLower, hunderdeveloped, hvacant, hcommercial, hresidential,
    Bool.false_eq_true, if_false, if_true]

theorem intent_of_not_residential
    (hresidential : Vocabulary.residential.occursIn (Text.lower request) = false) :
    (Search.read request).intent ≠ .commercial ∧
      ∀ homes, (Search.read request).intent ≠ .residential homes := by
  change Intent.ofLower (Text.lower request) ≠ _ ∧
    ∀ homes, Intent.ofLower (Text.lower request) ≠ _
  simp only [Intent.ofLower, hunderdeveloped, hvacant, hcommercial, hresidential,
    Bool.false_eq_true, if_false]
  split_ifs <;> simp

theorem not_narrowsHomes
    (hform : Vocabulary.homesByForm.occursIn (Text.lower request) = true)
    (hresidential : Vocabulary.residential.occursIn (Text.lower request) = false) :
    ¬ NarrowsHomes request := by
  intro h
  have hnone : ∀ letters : Text,
      ¬ HasFirstCondition (Understood.byRules request).sql ('L' :: letters) := by
    intro letters
    obtain ⟨hnotCommercial, hnotResidential⟩ :=
      intent_of_not_residential hunderdeveloped hvacant hcommercial hresidential
    exact Search.not_hasFirstCondition hnotCommercial hnotResidential
  cases hsingle : Vocabulary.singleFamily.occursIn (Text.lower request) with
  | true => exact hnone _ (h.singleFamily hsingle)
  | false =>
      have hmulti : Vocabulary.multiFamily.occursIn (Text.lower request) = true := by
        simpa [hsingle] using Vocabulary.singleFamily_or_multiFamily hform
      exact hnone _ (h.multiFamily hsingle hmulti)

/-- A request for a kind of homes, and for nothing that goes before homes, gets the condition for
that kind first, unless its only phrases for homes name the form of the building. -/
theorem narrowsHomes_iff : NarrowsHomes request ↔
    (Vocabulary.homesByForm.occursIn (Text.lower request) = true →
      Vocabulary.residential.occursIn (Text.lower request) = true) := by
  constructor
  · intro h hform
    by_contra hresidential
    exact not_narrowsHomes hunderdeveloped hvacant hcommercial hform
      (Bool.eq_false_iff.2 hresidential) h
  · intro h
    have hfirst : ∀ condition, Vocabulary.singleFamily.occursIn (Text.lower request) = true ∨
        Vocabulary.multiFamily.occursIn (Text.lower request) = true →
        (Intent.residential (Intent.homes (Text.lower request))).condition? = some condition →
        HasFirstCondition (Understood.byRules request).sql condition := by
      intro condition hkind hcondition
      have hresidential := (Vocabulary.residential_or_homesByForm hkind).elim id h
      have hintent := intent_of_residential hunderdeveloped hvacant hcommercial hresidential
      apply Search.hasFirstCondition_of_conditions
      rw [Search.conditions, hintent, hcondition]
      rfl
    refine ⟨fun hsingle => ?_, fun hsingle hmulti => ?_⟩
    · apply hfirst _ (.inl hsingle)
      rw [Intent.homes, if_pos hsingle]
      rfl
    · apply hfirst _ (.inr hmulti)
      rw [Intent.homes, if_neg (Bool.eq_false_iff.1 hsingle), if_pos hmulti]
      rfl

end

theorem narrowsHomes_walkUps :
    Vocabulary.underdeveloped.occursIn (Text.lower "Walk-up apartments in Queens".toList) = false ∧
      Vocabulary.vacant.occursIn (Text.lower "Walk-up apartments in Queens".toList) = false ∧
      Vocabulary.commercial.occursIn (Text.lower "Walk-up apartments in Queens".toList) = false ∧
      Vocabulary.homesByForm.occursIn (Text.lower "Walk-up apartments in Queens".toList) = true ∧
      HasFirstCondition (Understood.byRules "Walk-up apartments in Queens".toList).sql
        "LEFT(bldgclass, 1) IN ('C', 'D')".toList := by
  have hunderdeveloped : Vocabulary.underdeveloped.occursIn
      (Text.lower "Walk-up apartments in Queens".toList) = false := by decide +kernel
  have hvacant : Vocabulary.vacant.occursIn
      (Text.lower "Walk-up apartments in Queens".toList) = false := by decide +kernel
  have hcommercial : Vocabulary.commercial.occursIn
      (Text.lower "Walk-up apartments in Queens".toList) = false := by decide +kernel
  have hnarrows : NarrowsHomes "Walk-up apartments in Queens".toList := by
    apply (narrowsHomes_iff hunderdeveloped hvacant hcommercial).2
    exact fun _ => by decide +kernel
  refine ⟨hunderdeveloped, hvacant, hcommercial, by decide +kernel, ?_⟩
  exact hnarrows.multiFamily (by decide +kernel) (by decide +kernel)

/-- The words for walk-ups stand among the phrases for homes of several families, but not among the
words for homes. -/
theorem not_narrowsHomes_walkUps :
    Vocabulary.underdeveloped.occursIn (Text.lower "walk-ups in Brooklyn".toList) = false ∧
      Vocabulary.vacant.occursIn (Text.lower "walk-ups in Brooklyn".toList) = false ∧
      Vocabulary.commercial.occursIn (Text.lower "walk-ups in Brooklyn".toList) = false ∧
      Vocabulary.singleFamily.occursIn (Text.lower "walk-ups in Brooklyn".toList) = false ∧
      Vocabulary.multiFamily.occursIn (Text.lower "walk-ups in Brooklyn".toList) = true ∧
      (Search.read "walk-ups in Brooklyn".toList).conditions = ["borough = 'BK'".toList] ∧
      ¬ HasFirstCondition (Understood.byRules "walk-ups in Brooklyn".toList).sql
        "LEFT(bldgclass, 1) IN ('C', 'D')".toList := by
  have hintent : (Search.read "walk-ups in Brooklyn".toList).intent = .unrecognized := by
    decide +kernel
  refine ⟨by decide +kernel, by decide +kernel, by decide +kernel, by decide +kernel,
    by decide +kernel, by decide +kernel, ?_⟩
  apply Search.not_hasFirstCondition
  · rw [hintent]
    simp
  · rw [hintent]
    simp

end LotSearch
