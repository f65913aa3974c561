import LotSearch.Proofs.Text.Character

/-!
# Written numbers

A natural number is written in ASCII digits, at least one, and reads back as itself.  An integer
that is not negative is written as the natural number it is.
-/

namespace LotSearch.Text

theorem isAsciiDigit_of_mem_ofNat {n : Nat} {c : Char} (h : c ∈ ofNat n) :
    isAsciiDigit c = true := by
  have hdigit : c.isDigit = true := Nat.isDigit_of_mem_toDigits (by decide) (by decide) h
  simp only [Char.isDigit, Bool.and_eq_true, decide_eq_true_eq] at hdigit
  simp only [isAsciiDigit, Bool.and_eq_true, decide_eq_true_eq]
  exact hdigit

theorem notMem_ofNat {c : Char} (h : isAsciiDigit c = false) (n : Nat) : c ∉ ofNat n := by
  intro hmem
  simpa [h] using isAsciiDigit_of_mem_ofNat hmem

theorem ofNat_ne_nil (n : Nat) : ofNat n ≠ [] := Nat.toDigits_ne_nil

theorem isDigit_of_mem_ofNat {n : Nat} {c : Char} (h : c ∈ ofNat n) : isDigit c = true :=
  isDigit_of_isAsciiDigit (isAsciiDigit_of_mem_ofNat h)

@[simp] theorem natural?_ofNat (n : Nat) : natural? (ofNat n) = some n := by
  have hall : (ofNat n).all isAsciiDigit = true :=
    List.all_eq_true.2 fun _ hc => isAsciiDigit_of_mem_ofNat hc
  have hvalue : digitsValue (ofNat n) = n := Nat.ofDigitChars_ten_toDigits
  simp [natural?, ofNat_ne_nil, hall, hvalue]

/-- A text that begins with neither sign is read as a natural number. -/
theorem integer?_eq_natural? {t : Text} (hplus : t.head? ≠ some '+')
    (hminus : t.head? ≠ some '-') : integer? t = (natural? t).map Int.ofNat := by
  unfold integer?
  split
  · simp at hplus
  · simp at hminus
  · rfl

theorem integer?_of_digits {t : Text} (h : ∀ c ∈ t, isDigit c = true) :
    integer? t = (natural? t).map Int.ofNat := by
  apply integer?_eq_natural?
  · intro hhead
    exact absurd (h '+' (List.mem_of_mem_head? hhead)) (by decide)
  · intro hhead
    exact absurd (h '-' (List.mem_of_mem_head? hhead)) (by decide)

theorem integerWithin?_ofNat (low high : Int) (n : Nat) :
    integerWithin? low high (ofNat n) = if low ≤ n ∧ n ≤ high then some (n : Int) else none := by
  rw [integerWithin?, integer?_of_digits fun _ hc => isDigit_of_mem_ofNat hc, natural?_ofNat]
  split_ifs with h <;> simpa [Option.filter] using h

/-- Digits are never read as a negative number. -/
theorem nonneg_of_integerWithin? {low high n : Int} {t : Text}
    (hdigits : ∀ c ∈ t, isDigit c = true) (h : integerWithin? low high t = some n) : 0 ≤ n := by
  rw [integerWithin?, integer?_of_digits hdigits, Option.filter_eq_some_iff] at h
  obtain ⟨m, _, rfl⟩ := Option.map_eq_some_iff.1 h.1
  exact Int.natCast_nonneg m

/-- At least one ASCII digit. -/
def IsDigits (t : Text) : Prop := t ≠ [] ∧ ∀ c ∈ t, isAsciiDigit c = true

/-- The end of a number in digits: nothing, or a point and at least one digit. -/
def IsFraction (t : Text) : Prop := t = [] ∨ ∃ digits, t = '.' :: digits ∧ IsDigits digits

theorem notMem_ofInt {c : Char} (h : isAsciiDigit c = false) (hne : c ≠ '-') (n : Int) :
    c ∉ ofInt n := by
  cases n with
  | ofNat n => exact notMem_ofNat h n
  | negSucc n => exact fun hmem => (List.mem_cons.1 hmem).elim hne (notMem_ofNat h (n + 1))

theorem ofInt_of_nonneg {n : Int} (h : 0 ≤ n) : ofInt n = ofNat n.toNat := by
  obtain ⟨m, rfl⟩ := Int.eq_ofNat_of_zero_le h
  rfl

end LotSearch.Text
