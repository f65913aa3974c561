import LotSearch.Proofs.Service.Search
import Mathlib

/-!
# What plans do to the log

A plan only adds to the log.  When the log keeps what it is given, a plan that comes to a result
has added all its records; and how long the log took to answer does not show in such a course.
-/

namespace LotSearch

/-- The same surroundings with a log that answers at once. -/
def Surroundings.withPromptLog (around : Surroundings) : Surroundings :=
  { around with append := fun n => ⟨0, (around.append n).outcome⟩ }

namespace Plan

variable {α : Type} {around : Surroundings} {limit : Duration}

theorem log_isPrefix (p : Plan α) (waited : Nat) (s : SessionState) :
    s.log <+: (p.perform around limit waited s).state.log := by
  induction p generalizing waited s with
  | finish result => exact List.prefix_rfl
  | ask _ _ _ ih | findTemplate _ _ ih | listTemplates _ ih | findOpportunity _ _ ih
  | listOpportunities _ ih | execute _ _ ih | listSearches _ _ _ _ ih =>
      simp only [perform, Course.after]
      split
      · exact List.prefix_rfl
      · refine .trans ?_ (ih _ _ _)
        exact List.prefix_rfl
  | append record next ih =>
      have hkept : ∀ s' : SessionState,
          s'.log = s.log ∨ s'.log = s.log ++ [record] → s.log <+: s'.log := by
        rintro s' (h | h)
        · exact h ▸ List.prefix_rfl
        · exact h ▸ List.prefix_append _ _
      simp only [perform, Course.after]
      split
      · apply hkept
        split <;> simp [cutOff]
      · refine .trans (hkept _ ?_) (ih _ _ _)
        split <;> simp

/-- All records of a course with a result are in the log, when the log keeps what it is given. -/
theorem log_eq_of_ok (hkept : ∀ n, (around.append n).outcome = .ok ()) (p : Plan α)
    (waited : Nat) (s : SessionState) {a : α}
    (h : (p.perform around limit waited s).result = .ok a) :
    (p.perform around limit waited s).state.log =
      s.log ++ (p.perform around limit waited s).records := by
  induction p generalizing waited s with
  | finish result => exact (List.append_nil s.log).symm
  | ask _ _ _ ih | findTemplate _ _ ih | listTemplates _ ih | findOpportunity _ _ ih
  | listOpportunities _ ih | execute _ _ ih | listSearches _ _ _ _ ih =>
      simp only [perform, Course.after] at h ⊢
      split at h
      · cases h
      · next hlate =>
          simp only [if_neg hlate]
          exact ih _ _ _ h
  | append record next ih =>
      simp only [perform, Course.after] at h ⊢
      split at h
      · cases h
      · next hlate =>
          have hstored : (decide (waited + (around.append s.appends).wait ≤ limit.milliseconds) &&
              (around.append s.appends).outcome.isOk) = true := by
            rw [hkept, Bool.and_eq_true, decide_eq_true_eq]
            exact ⟨Nat.le_of_not_lt hlate, rfl⟩
          simp only [hstored, if_true] at h
          simp only [hstored, if_true, if_neg hlate]
          rw [ih _ _ _ h, List.append_assoc]
          rfl

theorem ite_cutOff_congr {waited waited' : Nat} (hle : waited' ≤ waited) {s : SessionState}
    {c c' : Course α} {a : α}
    (h : (if limit.milliseconds < waited then cutOff limit s else c).result = .ok a)
    (heq : c.result = .ok a → c' = c) :
    (if limit.milliseconds < waited' then cutOff limit s else c') =
      if limit.milliseconds < waited then cutOff limit s else c := by
  by_cases hlate : limit.milliseconds < waited
  · rw [if_pos hlate] at h
    cases h
  · rw [if_neg hlate] at h
    rw [if_neg hlate, if_neg (by omega), heq h]

/-- A course with a result goes in the same way when the log answers faster. -/
theorem perform_withPromptLog (p : Plan α) {waited waited' : Nat} (hle : waited' ≤ waited)
    (s : SessionState) {a : α} (h : (p.perform around limit waited s).result = .ok a) :
    p.perform around.withPromptLog limit waited' s = p.perform around limit waited s := by
  induction p generalizing waited waited' s with
  | finish result => rfl
  | findTemplate _ _ ih | listTemplates _ ih | findOpportunity _ _ ih | listOpportunities _ ih =>
      rw [perform] at h
      rw [perform, perform]
      exact ite_cutOff_congr (Nat.add_le_add_right hle _) h (ih _ (Nat.add_le_add_right hle _) _)
  | ask _ _ _ ih | execute _ _ ih | listSearches _ _ _ _ ih =>
      rw [perform] at h
      rw [perform, perform]
      exact congrArg _
        (ite_cutOff_congr (Nat.add_le_add_right hle _) h (ih _ (Nat.add_le_add_right hle _) _))
  | append record next ih =>
      have hfaster : waited' + 0 ≤ waited + (around.append s.appends).wait := by omega
      have hintime : waited + (around.append s.appends).wait ≤ limit.milliseconds := by
        by_contra hlate
        rw [perform, if_pos (Nat.lt_of_not_le hlate)] at h
        cases h
      have hstored : decide (waited' + 0 ≤ limit.milliseconds) =
          decide (waited + (around.append s.appends).wait ≤ limit.milliseconds) := by
        rw [decide_eq_true hintime, decide_eq_true (hfaster.trans hintime)]
      have hprompt : around.withPromptLog.append s.appends =
          ⟨0, (around.append s.appends).outcome⟩ := rfl
      rw [perform] at h
      rw [perform, perform]
      simp only [hprompt, hstored]
      exact congrArg (Course.after _) (ite_cutOff_congr hfaster h (ih _ hfaster _))

end Plan

end LotSearch
