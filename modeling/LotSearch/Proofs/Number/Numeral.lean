import LotSearch.Proofs.Text.Number
import LotSearch.Request.Amount

/-!
# The numerals of amounts

Rounding, scaling and the search for short digits keep the sign of a number, and only a minus sign
in front of a text makes the number negative that is read from it.  An amount that is not negative
is written with ASCII digits and at most one point among them, or as infinity.
-/

namespace LotSearch

/-! ## Signs -/

namespace Dyadic

theorem negative_ofQuotient? {format : BinaryFormat} {negative : Bool} {num den : Nat}
    {x : Dyadic} (h : ofQuotient? format negative num den = some x) : x.negative = negative := by
  simp only [ofQuotient?] at h
  split_ifs at h <;> cases h <;> rfl

theorem negative_scale? {format : BinaryFormat} {k : Nat} {x y : Dyadic}
    (h : x.scale? format k = some y) : y.negative = x.negative :=
  negative_ofQuotient? h

theorem negative_toDyadic? {format : BinaryFormat} {d : Decimal} {x : Dyadic}
    (h : d.toDyadic? format = some x) : x.negative = d.negative := by
  simp only [Decimal.toDyadic?] at h
  split_ifs at h
  · exact negative_ofQuotient? h
  · exact negative_ofQuotient? h

theorem negative_neighbour? {format : BinaryFormat} {tie : Tie} {x : Dyadic} {exponent : Int}
    {d : Decimal} (h : neighbour? format tie x exponent = some d) : d.negative = x.negative := by
  simp only [neighbour?] at h
  split_ifs at h <;> cases h <;> rfl

theorem negative_firstDigits? {format : BinaryFormat} {tie : Tie} {x : Dyadic} {power : Int}
    {counts : List Nat} {d : Decimal} (h : firstDigits? format tie x power counts = some d) :
    d.negative = x.negative := by
  induction counts with
  | nil => cases h
  | cons count counts ih =>
      unfold firstDigits? at h
      split at h
      · rename_i found hfound
        cases h
        exact negative_neighbour? hfound
      · exact ih h

theorem negative_shortest (format : BinaryFormat) (tie : Tie) (x : Dyadic) :
    (x.shortest format tie).negative = x.negative := by
  have hexact : x.exactDecimal.negative = x.negative := by
    simp only [exactDecimal]
    split_ifs <;> rfl
  simp only [shortest]
  split_ifs
  · rfl
  · cases hdigits : firstDigits? format tie x (leadingPower x.num x.den) (List.range' 1 17) with
    | none => exact hexact
    | some d => exact negative_firstDigits? hdigits

end Dyadic

theorem Decimal.negative_normal (d : Decimal) : d.normal.negative = d.negative := by
  have hstrip : ∀ (fuel : Nat) (e : Decimal), (e.stripZeros fuel).negative = e.negative := by
    intro fuel
    induction fuel with
    | zero => exact fun _ => rfl
    | succ fuel ih =>
        intro e
        simp only [stripZeros]
        split_ifs
        · exact ih _
        · rfl
  exact hstrip _ d

namespace Text

theorem negative_numeral? {negative : Bool} {t : Text} {d : Decimal}
    (h : numeral? negative t = some d) : d.negative = negative := by
  simp only [numeral?] at h
  split at h
  · split_ifs at h
    obtain ⟨power, _, rfl⟩ := Option.map_eq_some_iff.1 h
    rfl
  · split_ifs at h
    obtain ⟨power, _, rfl⟩ := Option.map_eq_some_iff.1 h
    rfl

theorem negative_unsignedFloat? {format : BinaryFormat} {negative : Bool} {t : Text} {x : Dyadic}
    (h : unsignedFloat? format negative t = some (.finite x)) : x.negative = negative := by
  simp only [unsignedFloat?] at h
  split_ifs at h
  · simp at h
  · simp at h
  · obtain ⟨d, hd, hx⟩ := Option.map_eq_some_iff.1 h
    split at hx
    · rename_i value hvalue
      cases hx
      rw [Dyadic.negative_toDyadic? hvalue, negative_numeral? hd]
    · cases hx

theorem negative_float? {format : BinaryFormat} {t : Text} {x : Dyadic}
    (hminus : t.head? ≠ some '-') (h : float? format t = some (.finite x)) :
    x.negative = false := by
  unfold float? at h
  split at h
  · simp at hminus
  · exact negative_unsignedFloat? h
  · exact negative_unsignedFloat? h

end Text

/-! ## Numerals -/

/-- ASCII digits, at least one, and perhaps a point with more digits. -/
inductive IsNumeral : Text → Prop
  | whole {digits : Text} (hne : digits ≠ []) (h : ∀ c ∈ digits, isAsciiDigit c = true) :
      IsNumeral digits
  | point {digits fraction : Text} (hne : digits ≠ []) (h : ∀ c ∈ digits, isAsciiDigit c = true)
      (hne' : fraction ≠ []) (h' : ∀ c ∈ fraction, isAsciiDigit c = true) :
      IsNumeral (digits ++ '.' :: fraction)

theorem isNumeral_ofNat (n : Nat) : IsNumeral (Text.ofNat n) :=
  .whole (Text.ofNat_ne_nil n) fun _ hc => Text.isAsciiDigit_of_mem_ofNat hc

theorem IsNumeral.mem {t : Text} (h : IsNumeral t) {c : Char} (hc : c ∈ t) :
    isAsciiDigit c = true ∨ c = '.' := by
  cases h with
  | whole _ hdigits => exact .inl (hdigits c hc)
  | point _ hdigits _ hfraction =>
      rcases List.mem_append.1 hc with hleft | hright
      · exact .inl (hdigits c hleft)
      · rcases List.mem_cons.1 hright with rfl | hlast
        · exact .inr rfl
        · exact .inl (hfraction c hlast)

/-- Zeros on either side of digits do not change that they are digits. -/
theorem isAsciiDigit_of_mem_zeros {n : Nat} {c : Char} (h : c ∈ List.replicate n '0') :
    isAsciiDigit c = true := by
  rw [List.eq_of_mem_replicate h]
  rfl

theorem isNumeral_positionalText {digits : Text} (hne : digits ≠ [])
    (h : ∀ c ∈ digits, isAsciiDigit c = true) (power : Int) :
    IsNumeral (Layout.positionalText [] digits power) := by
  simp only [Layout.positionalText]
  split_ifs with hpower hlength
  · have hzero : ∀ c ∈ ['0'], isAsciiDigit c = true := by simp [isAsciiDigit]
    have hfraction : ∀ c ∈ List.replicate (-power - 1).toNat '0' ++ digits,
        isAsciiDigit c = true := by
      intro c hc
      rcases List.mem_append.1 hc with hzeros | hdigits
      · exact isAsciiDigit_of_mem_zeros hzeros
      · exact h c hdigits
    exact .point (by simp) hzero (by simp [hne]) hfraction
  · apply IsNumeral.whole (by simp [hne])
    intro c hc
    rw [List.append_nil] at hc
    rcases List.mem_append.1 hc with hdigits | hzeros
    · exact h c hdigits
    · exact isAsciiDigit_of_mem_zeros hzeros
  · refine .point ?_ (fun c hc => h c (List.mem_of_mem_take hc)) ?_
      fun c hc => h c (List.mem_of_mem_drop hc)
    · simp [hne]
    · intro hnil
      exact hlength (List.drop_eq_nil_iff.1 hnil)

namespace Amount

/-- An infinite amount, or a finite one without a minus sign. -/
def Nonneg (a : Amount) : Prop := ∀ x ∈ a, x.negative = false

theorem nonneg_inUnit {unit : Option Text} {value : Dyadic} (h : value.negative = false) :
    Nonneg (inUnit unit value) := fun _ hx => (Dyadic.negative_scale? hx).trans h

/-- A numeral without a minus sign, in which commas are ignored, is read as no negative number. -/
theorem negative_read? {t : Text} {x : Dyadic} (hminus : '-' ∉ t) (h : read? t = some x) :
    x.negative = false := by
  obtain ⟨reading, hreading, hfinite⟩ := Option.bind_eq_some_iff.1 h
  cases reading with
  | finite value =>
      cases hfinite
      apply Text.negative_float? _ hreading
      intro hhead
      apply hminus
      exact (List.mem_filter.1 (List.mem_of_mem_head? hhead)).1
  | infinite negative => cases hfinite
  | notANumber => cases hfinite

theorem isNumeral_write {x : Dyadic} (h : x.negative = false) : IsNumeral (write (some x)) := by
  simp only [write]
  split_ifs with hinteger hminus
  · simp [h] at hminus
  · exact isNumeral_ofNat _
  · have hnormal : (x.shortest .double layout.tie).normal.negative = false := by
      rw [Decimal.negative_normal, Dyadic.negative_shortest, h]
    have hpositional : ∀ power, layout.positional power = true := fun _ => rfl
    simp only [Layout.write, Layout.writeDecimal, hnormal, hpositional]
    exact isNumeral_positionalText (Text.ofNat_ne_nil _)
      (fun _ hc => Text.isAsciiDigit_of_mem_ofNat hc) _

theorem write_of_nonneg {a : Amount} (h : Nonneg a) :
    IsNumeral a.write ∨ a.write = "inf".toList := by
  cases a with
  | none => exact .inr rfl
  | some x => exact .inl (isNumeral_write (h x rfl))

end Amount

end LotSearch
