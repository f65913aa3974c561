import LotSearch.Text.Blank
import LotSearch.Text.Case
import LotSearch.Text.Digit
import LotSearch.Text.Word
import Mathlib

/-!
# Classes of characters

Blanks, decimal digits and the letters that fold to ASCII are told apart by their tables.  Two
tables without a common code point are compared range by range, so no proof looks at characters
one by one.
-/

namespace LotSearch

/-- Two tables of ranges without a common code point. -/
def RangesApart (s t : List (Nat × Nat)) : Prop :=
  ∀ a ∈ s, ∀ b ∈ t, a.2 < b.1 ∨ b.2 < a.1

instance (s t : List (Nat × Nat)) : Decidable (RangesApart s t) :=
  inferInstanceAs (Decidable (∀ a ∈ s, ∀ b ∈ t, a.2 < b.1 ∨ b.2 < a.1))

theorem RangesApart.inRanges_eq_false {s t : List (Nat × Nat)} (h : RangesApart s t) {n : Nat}
    (hs : inRanges s n = true) : inRanges t n = false := by
  obtain ⟨a, ha, hfirst, hlast⟩ := inRanges_eq_true_iff.1 hs
  by_contra ht
  obtain ⟨b, hb, hfirst', hlast'⟩ := inRanges_eq_true_iff.1 (by simpa using ht)
  rcases h a ha b hb with hlt | hlt <;> omega

/-- What holds of each character of a text is checked along the text, not over all characters. -/
theorem forall_mem_of_all {p : Char → Prop} [DecidablePred p] {t : Text}
    (h : (t.all fun c => decide (p c)) = true) : ∀ c ∈ t, p c := by
  simpa using h

theorem inRanges_of_isAsciiDigit {c : Char} (h : isAsciiDigit c = true) :
    inRanges [(0x30, 0x39)] c.toNat = true := by
  simp only [isAsciiDigit, Bool.and_eq_true, decide_eq_true_eq] at h
  exact inRanges_eq_true_iff.2 ⟨(0x30, 0x39), by simp, h.1, h.2⟩

theorem inRanges_of_isDigit {c : Char} (h : isDigit c = true) :
    inRanges digitRanges c.toNat = true := by
  unfold isDigit at h
  split at h
  · obtain ⟨range, hmem, hbounds⟩ := inRanges_eq_true_iff.1 (inRanges_of_isAsciiDigit h)
    exact inRanges_eq_true_iff.2 ⟨range, by simp_all [digitRanges], hbounds⟩
  · exact h

theorem isDigit_of_isAsciiDigit {c : Char} (h : isAsciiDigit c = true) : isDigit c = true := by
  obtain ⟨range, hmem, _, hlast⟩ := inRanges_eq_true_iff.1 (inRanges_of_isAsciiDigit h)
  have hsmall : c.toNat < 0x80 := by
    simp only [List.mem_singleton] at hmem
    subst hmem
    omega
  simp [isDigit, hsmall, h]

theorem isBlank_of_isDigit {c : Char} (h : isDigit c = true) : isBlank c = false :=
  RangesApart.inRanges_eq_false (by decide) (inRanges_of_isDigit h)

theorem isDigit_of_isBlank {c : Char} (h : isBlank c = true) : isDigit c = false := by
  by_contra hd
  simp [isBlank_of_isDigit (by simpa using hd)] at h

theorem isWord_of_isBlank {c : Char} (h : isBlank c = true) : isWord c = false := by
  unfold isWord
  split_ifs with hsmall
  · have hfirst : c.toNat ≤ 0x20 := by
      by_contra hlarge
      have hprinted : inRanges [(0x21, 0x7F)] c.toNat = true :=
        inRanges_eq_true_iff.2 ⟨(0x21, 0x7F), by simp, by omega, by omega⟩
      have hapart : RangesApart blankRanges [(0x21, 0x7F)] := by decide
      simp [hapart.inRanges_eq_false h] at hprinted
    have hvalue : c.val.toNat ≤ 0x20 := hfirst
    have hline : c ≠ '_' := by
      rintro rfl
      exact absurd hfirst (by decide)
    simp [Char.isAlphanum, Char.isAlpha, Char.isUpper, Char.isLower, Char.isDigit,
      UInt32.le_iff_toNat_le, hline]
    omega
  · have hlow : RangesApart blankRanges wordRangesLow := by decide +kernel
    have hhigh : RangesApart blankRanges wordRangesHigh := by decide +kernel
    rw [hlow.inRanges_eq_false h, hhigh.inRanges_eq_false h, Bool.or_self]

/-- A character of a class is none of the characters outside it. -/
theorem ne_of_class {p : Char → Bool} {c d : Char} (hc : p c = true) (hd : p d = false) :
    c ≠ d := by
  rintro rfl
  simp [hc] at hd

/-! ## Letters up to case -/

/-- The code points that folding changes: the ASCII capitals, the long s and the Kelvin sign. -/
def foldedRanges : List (Nat × Nat) := [(0x41, 0x5A), (0x17F, 0x17F), (0x212A, 0x212A)]

theorem toLower_eq_self {c : Char} (h : inRanges [(0x41, 0x5A)] c.toNat = false) :
    c.toLower = c := by
  unfold Char.toLower
  rw [dif_neg]
  rintro ⟨hfirst, hlast⟩
  have hin : inRanges [(0x41, 0x5A)] c.toNat = true :=
    inRanges_eq_true_iff.2 ⟨(0x41, 0x5A), by simp, hfirst, hlast⟩
  simp [h] at hin

theorem foldAscii_eq_self {c : Char} (h : inRanges foldedRanges c.toNat = false) :
    foldAscii c = c := by
  have hlong : c ≠ 'ſ' := by
    rintro rfl
    exact absurd h (by decide)
  have hkelvin : c ≠ '\u212A' := by
    rintro rfl
    exact absurd h (by decide)
  have hcapital : inRanges [(0x41, 0x5A)] c.toNat = false := by
    simp_all [inRanges, foldedRanges]
  simp [foldAscii, hlong, hkelvin, toLower_eq_self hcapital]

theorem foldAscii_of_isBlank {c : Char} (h : isBlank c = true) : foldAscii c = c :=
  foldAscii_eq_self (RangesApart.inRanges_eq_false (by decide) h)

theorem foldAscii_of_isDigit {c : Char} (h : isDigit c = true) : foldAscii c = c :=
  foldAscii_eq_self (RangesApart.inRanges_eq_false (by decide) (inRanges_of_isDigit h))

/-- A character that folds to one that is no blank is no blank itself. -/
theorem isBlank_of_foldAscii {c p : Char} (h : foldAscii c = p) (hp : isBlank p = false) :
    isBlank c = false := by
  by_contra hc
  have hblank : isBlank c = true := by simpa using hc
  rw [foldAscii_of_isBlank hblank] at h
  simp [h, hp] at hblank

theorem isDigit_of_foldAscii {c p : Char} (h : foldAscii c = p) (hp : isDigit p = false) :
    isDigit c = false := by
  by_contra hc
  have hdigit : isDigit c = true := by simpa using hc
  rw [foldAscii_of_isDigit hdigit] at h
  simp [h, hp] at hdigit

/-- A character that folds to a word character is one. -/
theorem isWord_of_foldAscii {c p : Char} (h : foldAscii c = p) (hs : p ≠ 's') (hk : p ≠ 'k')
    (hp : isWord p = true) : isWord c = true := by
  subst h
  unfold foldAscii at hs hk hp
  split_ifs at hs hk hp
  · exact absurd rfl hs
  · exact absurd rfl hk
  · unfold Char.toLower at hp
    split_ifs at hp with hcapital
    · have hlast : c.toNat ≤ 0x5A := hcapital.2
      have hsmall : c.toNat < 0x80 := by omega
      have hupper : c.isUpper = true := by simpa [Char.isUpper] using hcapital
      simp [isWord, hsmall, Char.isAlphanum, Char.isAlpha, hupper]
    · exact hp

/-- Reading a folded word splits off the characters that fold to it. -/
theorem Text.afterFolded?_eq_some_iff {word t rest : Text} :
    Text.afterFolded? word t = some rest ↔ ∃ u, t = u ++ rest ∧ u.map foldAscii = word := by
  induction word generalizing t with
  | nil => simp [Text.afterFolded?, eq_comm]
  | cons p word ih =>
      cases t with
      | nil => simp [Text.afterFolded?]
      | cons c t =>
          constructor
          · intro h
            simp only [Text.afterFolded?] at h
            split at h
            · rename_i hc
              obtain ⟨u, rfl, hu⟩ := ih.1 h
              exact ⟨c :: u, rfl, by simp [hc, hu]⟩
            · cases h
          · rintro ⟨u, ht, hu⟩
            obtain ⟨d, u, rfl⟩ : ∃ d u', u = d :: u' := by
              cases u with
              | nil => simp at hu
              | cons d u => exact ⟨d, u, rfl⟩
            simp only [List.map_cons, List.cons.injEq] at hu
            simp only [List.cons_append, List.cons.injEq] at ht
            obtain ⟨rfl, rfl⟩ := ht
            simp only [Text.afterFolded?, hu.1, if_true]
            exact ih.2 ⟨u, rfl, hu.2⟩

end LotSearch
