import LotSearch.Proofs.Number.Numeral
import LotSearch.Proofs.Text.Delimited

/-!
# Groups of three digits

A comma stands before a digit when the number of digits from it on is a multiple of three.  Read
from the end, a whole number is thereby cut into groups of three digits, before which one to three
digits are left.  Only the whole part of an amount is cut, and nothing but commas is added to it.
-/

namespace LotSearch

/-! ## Commas -/

namespace Amount

theorem filter_group (t : Text) : (group t).filter (· != ',') = t.filter (· != ',') := by
  induction t with
  | nil => rfl
  | cons c t ih =>
      rw [group]
      split_ifs <;> simp [List.filter_cons, ih]

theorem filter_writeGrouped (a : Amount) :
    a.writeGrouped.filter (· != ',') = a.write.filter (· != ',') := by
  rw [writeGrouped, List.filter_append, filter_group, ← List.filter_append,
    List.takeWhile_append_dropWhile]

theorem writeGrouped_eq {a : Amount} {whole fraction : Text} (h : a.write = whole ++ fraction)
    (hwhole : '.' ∉ whole) (hfraction : Text.IsFraction fraction) :
    a.writeGrouped = group whole ++ fraction := by
  have hbefore : ∀ c ∈ whole, (c != '.') = true := by
    intro c hc
    simpa using fun heq : c = '.' => hwhole (heq ▸ hc)
  have hstop : fraction.head?.any (· != '.') = false := by
    rcases hfraction with rfl | ⟨digits, rfl, -⟩ <;> simp
  rw [writeGrouped, h, takeWhile_append_of_class hbefore hstop,
    dropWhile_append_of_class hbefore hstop]

end Amount

/-! ## Groups -/

/-- Groups of digits: one to three in the first, and three in every other. -/
structure IsGroups (first : Text) (groups : List Text) : Prop where
  isDigits : ∀ g ∈ first :: groups, Text.IsDigits g
  first_length_le : first.length ≤ 3
  length_eq : ∀ g ∈ groups, g.length = 3

/-- A numeral, and the same numeral with a comma between the groups of its whole part. -/
inductive IsGrouping : Text → Text → Prop
  | mk {first fraction : Text} {groups : List Text} (hgroups : IsGroups first groups)
      (hfraction : Text.IsFraction fraction) :
      IsGrouping ((first :: groups).flatten ++ fraction)
        (Text.join [','] (first :: groups) ++ fraction)

namespace IsGroups

variable {first : Text} {groups : List Text}

theorem length_mod_three (h : IsGroups first groups) :
    (first :: groups).flatten.length % 3 = 0 ↔ first.length = 3 := by
  have hlengths := List.map_congr_left h.length_eq
  have hpos := List.length_pos_iff.2 (h.isDigits first List.mem_cons_self).1
  have hle := h.first_length_le
  simp only [List.length_flatten, List.map_cons, hlengths, List.map_const', List.sum_cons,
    List.sum_replicate, smul_eq_mul]
  omega

/-- A further digit begins a group of its own before a full one. -/
theorem cons_full (h : IsGroups first groups) (hfull : first.length = 3) {c : Char}
    (hc : isAsciiDigit c = true) : IsGroups [c] (first :: groups) where
  isDigits := List.forall_mem_cons.2 ⟨⟨by simp, by simpa using hc⟩, h.isDigits⟩
  first_length_le := by simp
  length_eq := List.forall_mem_cons.2 ⟨hfull, h.length_eq⟩

/-- A further digit joins a group that is not full. -/
theorem cons_short (h : IsGroups first groups) (hshort : first.length < 3) {c : Char}
    (hc : isAsciiDigit c = true) : IsGroups (c :: first) groups where
  isDigits := by
    obtain ⟨⟨-, hfirst⟩, hgroups⟩ := List.forall_mem_cons.1 h.isDigits
    exact List.forall_mem_cons.2 ⟨⟨by simp, List.forall_mem_cons.2 ⟨hc, hfirst⟩⟩, hgroups⟩
  first_length_le := hshort
  length_eq := h.length_eq

end IsGroups

theorem Text.cons_join (c : Char) (sep first : Text) (groups : List Text) :
    c :: Text.join sep (first :: groups) = Text.join sep ((c :: first) :: groups) := by
  cases groups <;> rfl

theorem IsNumeral.exists_whole_fraction {t : Text} (h : IsNumeral t) :
    ∃ whole fraction, Text.IsDigits whole ∧ Text.IsFraction fraction ∧ t = whole ++ fraction := by
  cases h with
  | whole hne hdigits => exact ⟨_, [], ⟨hne, hdigits⟩, .inl rfl, (List.append_nil _).symm⟩
  | point hne hdigits hne' hfraction =>
      exact ⟨_, _, ⟨hne, hdigits⟩, .inr ⟨_, rfl, hne', hfraction⟩, rfl⟩

/-- A number that is not below zero.  The negative zero counts as zero. -/
def Dyadic.AtLeastZero (x : Dyadic) : Prop := x.negative = false ∨ x.isZero = true

namespace Amount

theorem group_cons_cons {c d : Char} (hd : isAsciiDigit d = true) (t : Text) :
    group (c :: d :: t) =
      if (d :: t).length % 3 = 0 then c :: ',' :: group (d :: t) else c :: group (d :: t) := by
  rw [group]
  simp [hd]

/-- A whole number is cut into groups. -/
theorem group_eq_join {t : Text} (h : Text.IsDigits t) :
    ∃ first groups, IsGroups first groups ∧ t = (first :: groups).flatten ∧
      group t = Text.join [','] (first :: groups) := by
  obtain ⟨hne, hdigits⟩ := h
  -- the groups of all but the first digit say whether a group is full behind it
  induction t with
  | nil => exact absurd rfl hne
  | cons c t ih =>
      obtain ⟨hc, ht⟩ := List.forall_mem_cons.1 hdigits
      cases t with
      | nil =>
          refine ⟨[c], [], ⟨?_, by simp, by simp⟩, rfl, rfl⟩
          exact List.forall_mem_singleton.2 ⟨by simp, hdigits⟩
      | cons d t =>
          obtain ⟨first, groups, hgroups, hflatten, hjoin⟩ := ih (by simp) ht
          rw [group_cons_cons (ht d List.mem_cons_self), hjoin, hflatten]
          split_ifs with hlength
          · have hfull := hgroups.length_mod_three.1 hlength
            exact ⟨[c], first :: groups, hgroups.cons_full hfull hc, rfl, rfl⟩
          · have hshort : first.length < 3 :=
              lt_of_le_of_ne hgroups.first_length_le (mt hgroups.length_mod_three.2 hlength)
            exact ⟨c :: first, groups, hgroups.cons_short hshort hc, rfl, Text.cons_join _ _ _ _⟩

theorem isNumeral_write_of_atLeastZero {x : Dyadic} (h : x.AtLeastZero) :
    IsNumeral (write (some x)) := by
  rcases h with hsign | hzero
  · exact isNumeral_write hsign
  · have hsignificand : x.significand = 0 := by simpa [Dyadic.isZero] using hzero
    have hnum : x.num = 0 := by simp [Dyadic.num, hsignificand]
    have hwrite : write (some x) = Text.ofNat 0 := by
      simp [write, Dyadic.isInteger, hnum, exactBound]
    exact hwrite ▸ isNumeral_ofNat 0

/-- A number that is not below zero is written with a comma between the groups of three digits of
its whole part, and is found again without the commas. -/
theorem isGrouping_writeGrouped {x : Dyadic} (h : x.AtLeastZero) :
    (writeGrouped (some x)).filter (· != ',') = write (some x) ∧
      IsGrouping (write (some x)) (writeGrouped (some x)) := by
  have hnumeral := isNumeral_write_of_atLeastZero h
  constructor
  · rw [filter_writeGrouped, List.filter_eq_self]
    intro c hc
    rcases hnumeral.mem hc with hdigit | rfl
    · exact bne_iff_ne.2 (ne_of_class hdigit (by decide))
    · rfl
  · obtain ⟨whole, fraction, hwhole, hfraction, hwrite⟩ := hnumeral.exists_whole_fraction
    have hpoint : '.' ∉ whole := fun hmem => absurd (hwhole.2 '.' hmem) (by decide)
    obtain ⟨first, groups, hgroups, rfl, hjoin⟩ := group_eq_join hwhole
    rw [writeGrouped_eq hwrite hpoint hfraction, hwrite, hjoin]
    exact .mk hgroups hfraction

theorem isGrouping_writeGrouped_half :
    let x : Dyadic := ⟨false, 5302427037204480, -32⟩
    x.AtLeastZero ∧ writeGrouped (some x) = "1,234,567.5".toList ∧
      (writeGrouped (some x)).filter (· != ',') = write (some x) ∧
        IsGrouping (write (some x)) (writeGrouped (some x)) := by
  intro x
  have hsign : x.AtLeastZero := .inl rfl
  exact ⟨hsign, by decide +kernel, isGrouping_writeGrouped hsign⟩

/-- The negative zero has no sign, since integers are written without one when they are zero. -/
example : writeGrouped (some ⟨true, 0, 0⟩) = "0".toList := by decide

end Amount

end LotSearch
