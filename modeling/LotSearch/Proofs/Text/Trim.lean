import LotSearch.Text.Blank
import Mathlib

/-!
# Trimmed texts

Cutting characters off the end of a text leaves a beginning of it.  A trimmed text begins with no
blank, and a text with firm ends is not changed by trimming.
-/

namespace LotSearch.Text

theorem dropEndWhile_isPrefix (p : Char → Bool) (t : Text) : dropEndWhile p t <+: t :=
  List.rdropWhile_prefix p t

/-- Trimming goes on behind a text only when nothing is left of what follows it. -/
theorem dropEndWhile_append (p : Char → Bool) (s t : Text) :
    dropEndWhile p (s ++ t) =
      if dropEndWhile p t = [] then dropEndWhile p s else s ++ dropEndWhile p t := by
  simp only [dropEndWhile, List.reverse_append, List.dropWhile_append, List.isEmpty_iff,
    List.reverse_eq_nil_iff]
  split_ifs with hnil
  · rfl
  · rw [List.reverse_append, List.reverse_reverse]

theorem dropEndWhile_eq_self {p : Char → Bool} {t : Text}
    (h : ∀ c, t.getLast? = some c → p c = false) : dropEndWhile p t = t := by
  apply List.rdropWhile_eq_self_iff.2
  intro hne
  simpa using h _ (List.getLast?_eq_some_getLast hne)

theorem getLast?_dropEndWhile {p : Char → Bool} {t : Text} {c : Char}
    (h : (dropEndWhile p t).getLast? = some c) : p c = false := by
  obtain ⟨hne, rfl⟩ := List.mem_getLast?_eq_getLast h
  exact eq_false_of_ne_true (List.rdropWhile_last_not p t hne)

theorem trimStart_eq_self {t : Text} (h : ∀ c, t.head? = some c → isBlank c = false) :
    trimStart t = t := by
  cases t with
  | nil => rfl
  | cons c t => simp [trimStart, h c rfl]

theorem trimStart_append {gap t : Text} (hgap : ∀ c ∈ gap, isBlank c = true)
    (ht : ∀ c, t.head? = some c → isBlank c = false) : trimStart (gap ++ t) = t := by
  rw [trimStart, List.dropWhile_append_of_pos hgap]
  exact trimStart_eq_self ht

theorem head?_trimStart {t : Text} {c : Char} (h : (trimStart t).head? = some c) :
    isBlank c = false := by
  have hkept := List.head?_dropWhile_not isBlank t
  simp only [trimStart] at h
  simpa [h] using hkept

theorem trimEnd_isPrefix (t : Text) : trimEnd t <+: t := dropEndWhile_isPrefix _ _

theorem trimEnd_trimEnd (t : Text) : trimEnd (trimEnd t) = trimEnd t :=
  List.rdropWhile_idempotent isBlank t

/-- A beginning of a text begins as the text does. -/
theorem head?_of_isPrefix {s t : Text} {c : Char} (h : s <+: t) (hs : s.head? = some c) :
    t.head? = some c := by
  obtain ⟨r, rfl⟩ := h
  rw [List.head?_append, hs]
  rfl

theorem head?_trim {t : Text} {c : Char} (h : (trim t).head? = some c) : isBlank c = false :=
  head?_trimStart (head?_of_isPrefix (trimEnd_isPrefix _) h)

theorem trim_eq_self {t : Text} (hhead : ∀ c, t.head? = some c → isBlank c = false)
    (hlast : ∀ c, t.getLast? = some c → isBlank c = false) : trim t = t := by
  rw [trim, trimStart_eq_self hhead, trimEnd, dropEndWhile_eq_self hlast]

/-- Nothing is left exactly of a text that consists of blanks. -/
theorem trim_eq_nil_iff {t : Text} : trim t = [] ↔ ∀ c ∈ t, isBlank c = true := by
  constructor
  · intro h
    have hend : ∀ c ∈ trimStart t, isBlank c = true := List.rdropWhile_eq_nil_iff.1 h
    have hstart : trimStart t = [] := by
      cases hrest : trimStart t with
      | nil => rfl
      | cons c rest =>
          have hhead : isBlank c = false := head?_trimStart (congrArg List.head? hrest)
          have hblank : isBlank c = true := hend c (hrest ▸ List.mem_cons_self)
          exact absurd hblank (by simp [hhead])
    exact List.dropWhile_eq_nil_iff.1 hstart
  · intro h
    have hstart : trimStart t = [] := List.dropWhile_eq_nil_iff.2 h
    rw [trim, hstart]
    rfl

/-- The blanks around a text with firm ends are cut off. -/
theorem trim_append {a t b : Text} (ha : ∀ c ∈ a, isBlank c = true) (hb : ∀ c ∈ b, isBlank c = true)
    (hne : t ≠ []) (hhead : ∀ c, t.head? = some c → isBlank c = false)
    (hlast : ∀ c, t.getLast? = some c → isBlank c = false) : trim (a ++ (t ++ b)) = t := by
  have hstart : trimStart (a ++ (t ++ b)) = t ++ b := by
    apply trimStart_append ha
    rwa [List.head?_append_of_ne_nil _ hne]
  have hend : dropEndWhile isBlank b = [] := List.rdropWhile_eq_nil_iff.2 hb
  rw [trim, hstart, trimEnd, dropEndWhile_append, if_pos hend, dropEndWhile_eq_self hlast]

/-- A trimmed text stands in the text, with only blanks before it. -/
theorem exists_append_trim (t : Text) :
    ∃ a b, t = a ++ (trim t ++ b) ∧ ∀ c ∈ a, isBlank c = true := by
  obtain ⟨b, hb⟩ : trim t <+: trimStart t := trimEnd_isPrefix (trimStart t)
  refine ⟨t.takeWhile isBlank, b, ?_, fun c hc => List.mem_takeWhile_imp hc⟩
  rw [hb]
  exact List.takeWhile_append_dropWhile.symm

end LotSearch.Text
