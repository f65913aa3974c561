import LotSearch.Proofs.Text.Character

/-!
# Lower and upper case of letters

No character has the Kelvin sign as its lower-case letter.  So in a lower-case text the letters of
ASCII up to simple folding are the small ones and the long s, and these have an ASCII capital.
-/

namespace LotSearch

namespace Text

/-- A property of all ASCII characters is checked on their code points. -/
theorem forall_ascii (p : Char → Prop) (h : ∀ n < 0x80, p (Char.ofNat n)) {c : Char}
    (hc : c.toNat < 0x80) : p c := by
  simpa [Char.ofNat_toNat] using h c.toNat hc

/-- Only the code point of a character other than the first one names it. -/
theorem toNat_of_ofNat {n : Nat} {c : Char} (hc : c ≠ '\x00') (h : Char.ofNat n = c) :
    c.toNat = n := by
  unfold Char.ofNat at h
  split_ifs at h
  · subst h
    rfl
  · exact absurd h.symm hc

theorem kelvin_notMem_lowerChar (c : Char) : '\u212A' ∉ lowerChar c := by
  -- no run of capitals is shifted onto the Kelvin sign, which itself stands in one of them
  have hruns : ∀ run ∈ lowerRuns, ¬ ((run.1 : Int) ≤ 0x212A - run.2.2.2 ∧
      (0x212A - run.2.2.2 : Int) ≤ run.2.1) := by decide +kernel
  intro hmem
  unfold lowerChar at hmem
  split_ifs at hmem with hascii hdotted
  · have hlower : ∀ n < 0x80, '\u212A' ∉ [(Char.ofNat n).toLower] := by decide
    exact forall_ascii (fun c => '\u212A' ∉ [c.toLower]) hlower hascii hmem
  · revert hmem
    decide
  · split at hmem
    · rename_i first last step shift hfind
      have hrun : ¬ ((first : Int) ≤ 0x212A - shift ∧ (0x212A - shift : Int) ≤ last) :=
        hruns _ (List.mem_of_find?_eq_some hfind)
      have hin := List.find?_some hfind
      simp only [Bool.and_eq_true, decide_eq_true_eq] at hin
      have hcode := toNat_of_ofNat (by decide) (List.mem_singleton.1 hmem).symm
      have hkelvin : '\u212A'.toNat = 0x212A := by decide
      rw [Int.ofNat_eq_natCast] at hcode
      omega
    · rename_i hfind
      obtain rfl : '\u212A' = c := List.mem_singleton.1 hmem
      exact absurd hfind (by decide +kernel)

theorem kelvin_notMem_lowerAfter (before t : Text) : '\u212A' ∉ lowerAfter before t := by
  induction t generalizing before with
  | nil => simp [lowerAfter]
  | cons c t ih =>
      rw [lowerAfter, List.mem_append, not_or]
      constructor
      · split_ifs
        · decide
        · decide
        · exact kelvin_notMem_lowerChar c
      · exact ih (c :: before)

theorem kelvin_notMem_lower (t : Text) : '\u212A' ∉ lower t := kelvin_notMem_lowerAfter [] t

/-! ## Capitals -/

theorem upperChar_eq_self {c : Char} (hlong : c ≠ 'ſ')
    (h : inRanges [(0x61, 0x7A)] c.toNat = false) : upperChar c = c := by
  rw [upperChar, if_neg hlong, Char.toUpper, dif_neg]
  rintro ⟨hfirst, hlast⟩
  have hin : inRanges [(0x61, 0x7A)] c.toNat = true :=
    inRanges_eq_true_iff.2 ⟨(0x61, 0x7A), by simp, hfirst, hlast⟩
  simp [h] at hin

theorem upperChar_of_isDigit {c : Char} (h : isDigit c = true) : upperChar c = c := by
  have hlong : c ≠ 'ſ' := ne_of_class h (by decide)
  exact upperChar_eq_self hlong (RangesApart.inRanges_eq_false (by decide) (inRanges_of_isDigit h))

/-- The capital of a letter of ASCII up to simple folding, apart from the Kelvin sign. -/
theorem upperChar_of_foldAscii {c : Char} (hkelvin : c ≠ '\u212A')
    (h : 'a' ≤ foldAscii c ∧ foldAscii c ≤ 'z') : 'A' ≤ upperChar c ∧ upperChar c ≤ 'Z' := by
  by_cases hlong : c = 'ſ'
  · subst hlong
    decide
  · simp only [foldAscii, hlong, hkelvin, if_false] at h
    have hsmall : c.toNat < 0x80 := by
      by_contra hlarge
      have hself : c.toLower = c := toLower_eq_self (by simp [inRanges]; omega)
      have hlast : c.toNat ≤ 0x7A := hself ▸ h.2
      omega
    have hletters : ∀ n < 0x80, 'a' ≤ (Char.ofNat n).toLower ∧ (Char.ofNat n).toLower ≤ 'z' →
        'A' ≤ upperChar (Char.ofNat n) ∧ upperChar (Char.ofNat n) ≤ 'Z' := by decide
    exact forall_ascii (fun c => 'a' ≤ c.toLower ∧ c.toLower ≤ 'z' →
      'A' ≤ upperChar c ∧ upperChar c ≤ 'Z') hletters hsmall h

end Text

end LotSearch
