import LotSearch.Text.Basic
import Mathlib

/-!
# Lists without repetitions

Taking later repetitions out of a list keeps its entries, in the order in which they first occur.
-/

namespace LotSearch.Text

theorem distinct_concat (names : List Text) (name : Text) :
    distinct (names ++ [name]) =
      if name ∈ distinct names then distinct names else distinct names ++ [name] := by
  simp [distinct, List.foldl_append]

theorem mem_distinct_iff {names : List Text} {name : Text} :
    name ∈ distinct names ↔ name ∈ names := by
  induction names using List.reverseRecOn with
  | nil => simp [distinct]
  | append_singleton names last ih =>
      rw [distinct_concat]
      split_ifs with hlast
      · rw [ih, List.mem_append, List.mem_singleton, or_iff_left_of_imp]
        rintro rfl
        exact ih.1 hlast
      · simp [ih]

theorem eq_nil_of_distinct {names : List Text} (h : distinct names = []) : names = [] :=
  List.eq_nil_iff_forall_not_mem.2 fun _ hname =>
    List.not_mem_nil (h ▸ mem_distinct_iff.2 hname)

/-- The entries that satisfy `p` are kept in the order in which they first occur among all. -/
theorem pairwise_distinct_filter (p : Text → Bool) (names : List Text) :
    (distinct (names.filter p)).Pairwise fun a b => names.idxOf a < names.idxOf b := by
  induction names using List.reverseRecOn with
  | nil => simp [distinct]
  | append_singleton names last ih =>
      have hkept : (distinct (names.filter p)).Pairwise fun a b =>
          (names ++ [last]).idxOf a < (names ++ [last]).idxOf b := by
        refine ih.imp_of_mem fun ha hb hlt => ?_
        rw [mem_distinct_iff] at ha hb
        rwa [List.idxOf_append_of_mem (List.mem_filter.1 ha).1,
          List.idxOf_append_of_mem (List.mem_filter.1 hb).1]
      rw [List.filter_append]
      by_cases hp : p last = true
      · rw [List.filter_cons_of_pos hp, List.filter_nil, distinct_concat]
        split_ifs with hlast
        · exact hkept
        · have hnew : last ∉ names := fun hmem =>
            hlast (mem_distinct_iff.2 (List.mem_filter.2 ⟨hmem, hp⟩))
          refine List.pairwise_append.2 ⟨hkept, List.pairwise_singleton _ _, ?_⟩
          intro a ha b hb
          have hold : a ∈ names := (List.mem_filter.1 (mem_distinct_iff.1 ha)).1
          obtain rfl := List.mem_singleton.1 hb
          rw [List.idxOf_append_of_mem hold, List.idxOf_append_of_notMem hnew]
          exact Nat.lt_add_right _ (List.idxOf_lt_length_of_mem hold)
      · rwa [List.filter_cons_of_neg hp, List.filter_nil, List.append_nil]

end LotSearch.Text
