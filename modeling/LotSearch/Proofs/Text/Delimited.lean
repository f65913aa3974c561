import LotSearch.Text.Basic
import Mathlib

/-!
# Texts that end by themselves

When two texts begin alike, their first parts are the same if it can be seen where a part ends:
because no word of a list begins another one, or because the parts consist of characters of a class
that no further one follows.
-/

namespace LotSearch

/-! ## Characters of a class -/

section

variable {accepts : Char → Bool} {u v s t : Text}

theorem takeWhile_append_of_class (hu : ∀ c ∈ u, accepts c = true)
    (ht : t.head?.any accepts = false) : (u ++ t).takeWhile accepts = u := by
  rw [List.takeWhile_append_of_pos hu]
  cases t with
  | nil => simp
  | cons c t => simp_all

theorem dropWhile_append_of_class (hu : ∀ c ∈ u, accepts c = true)
    (ht : t.head?.any accepts = false) : (u ++ t).dropWhile accepts = t := by
  rw [List.dropWhile_append_of_pos hu]
  cases t with
  | nil => rfl
  | cons c t => simp_all

theorem exists_append_of_class (hu : ∀ c ∈ u, accepts c = true) (hv : ∀ c ∈ v, accepts c = true)
    (ht : t.head?.any accepts = false) (h : u ++ s = v ++ t) :
    ∃ w, (∀ c ∈ w, accepts c = true) ∧ s = w ++ t := by
  rcases List.append_eq_append_iff.1 h with ⟨w, rfl, hs⟩ | ⟨w, rfl, rfl⟩
  · exact ⟨w, fun c hc => hv c (List.mem_append_right u hc), hs⟩
  · cases w with
    | nil => exact ⟨[], by simp, rfl⟩
    | cons c w => simp [hu c (by simp)] at ht

theorem append_cancel_of_class (hu : ∀ c ∈ u, accepts c = true) (hv : ∀ c ∈ v, accepts c = true)
    (hs : s.head?.any accepts = false) (ht : t.head?.any accepts = false)
    (h : u ++ s = v ++ t) : s = t := by
  obtain ⟨w, hw, rfl⟩ := exists_append_of_class hu hv ht h
  cases w with
  | nil => rfl
  | cons c w => simp [hw c List.mem_cons_self] at hs

theorem append_inj_of_class (hu : ∀ c ∈ u, accepts c = true) (hv : ∀ c ∈ v, accepts c = true)
    (hs : s.head?.any accepts = false) (ht : t.head?.any accepts = false)
    (h : u ++ s = v ++ t) : u = v ∧ s = t := by
  obtain rfl := append_cancel_of_class hu hv hs ht h
  exact ⟨List.append_cancel_right h, rfl⟩

end

/-! ## Words that begin no other -/

/-- The word of none of the things begins the word of another one. -/
def PrefixFree {α : Type} (word : α → Text) (things : List α) : Prop :=
  ∀ a ∈ things, ∀ b ∈ things, word a <+: word b → a = b

instance {α : Type} [DecidableEq α] (word : α → Text) (things : List α) :
    Decidable (PrefixFree word things) :=
  inferInstanceAs (Decidable (∀ a ∈ things, ∀ b ∈ things, word a <+: word b → a = b))

theorem PrefixFree.of_pairwise {α : Type} {word : α → Text} {things : List α}
    (h : (things.map word).Pairwise fun u v => ¬ u <+: v ∧ ¬ v <+: u) : PrefixFree word things := by
  have hsymm : Std.Symm fun a b => ¬ word a <+: word b ∧ ¬ word b <+: word a :=
    ⟨fun _ _ hne => hne.symm⟩
  intro a ha b hb hprefix
  by_contra hne
  exact ((List.pairwise_map.1 h).forall ha hb hne).1 hprefix

theorem PrefixFree.append_inj {α : Type} {word : α → Text} {things : List α}
    (h : PrefixFree word things) {a b : α} {s t : Text} (ha : a ∈ things) (hb : b ∈ things)
    (heq : word a ++ s = word b ++ t) : a = b ∧ s = t := by
  have hsame : a = b := by
    rcases List.prefix_or_prefix_of_prefix ⟨s, heq⟩ (List.prefix_append (word b) t) with hab | hba
    · exact h a ha b hb hab
    · exact (h b hb a ha hba).symm
  subst hsame
  exact ⟨rfl, List.append_cancel_left heq⟩

end LotSearch
