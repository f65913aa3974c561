import LotSearch.Proofs.Number.Numeral
import LotSearch.Proofs.Statement.Quiet
import LotSearch.Template.Placeholder

/-!
# Literals in a statement

The literal of a value begins and ends in code.  Two hyphens in a row stand in it only between
its quotes, and only the literal of a negative number begins with a hyphen.
-/

namespace LotSearch

open Statement

/-! ## Numbers -/

namespace Layout

theorem quiet_positionalText {afterInteger digits : Text} (hne : digits ≠ [])
    (hafter : ∀ c ∈ afterInteger, c ≠ '\'' ∧ c ≠ '-') (hdigits : ∀ c ∈ digits, c ≠ '\'' ∧ c ≠ '-')
    (power : Int) : Quiet (positionalText afterInteger digits power) ∧
      (positionalText afterInteger digits power).head? ≠ some '-' := by
  have hplain : ∀ c ∈ positionalText afterInteger digits power, c ≠ '\'' ∧ c ≠ '-' := by
    have hpoint : ∀ c ∈ ['0', '.'], c ≠ '\'' ∧ c ≠ '-' := forall_mem_of_all (by decide)
    have hzeros : ∀ (n : Nat), ∀ c ∈ List.replicate n '0', c ≠ '\'' ∧ c ≠ '-' := by
      intro n c hc
      exact hpoint c (by simp [List.eq_of_mem_replicate hc])
    intro c hc
    simp only [positionalText] at hc
    split_ifs at hc
    · rcases List.mem_append.1 hc with hc | hc
      · exact (List.mem_append.1 hc).elim (hpoint c) (hzeros _ c)
      · exact hdigits c hc
    · rcases List.mem_append.1 hc with hc | hc
      · exact (List.mem_append.1 hc).elim (hdigits c) (hzeros _ c)
      · exact hafter c hc
    · rcases List.mem_append.1 hc with hc | hc
      · exact hdigits c (List.mem_of_mem_take hc)
      · rcases List.mem_cons.1 hc with rfl | hc
        · exact hpoint _ (by simp)
        · exact hdigits c (List.mem_of_mem_drop hc)
  have hnil : positionalText afterInteger digits power ≠ [] := by
    simp only [positionalText]
    split_ifs <;> simp [hne]
  exact ⟨.of_plain hnil hplain, fun hhead => (hplain _ (List.mem_of_mem_head? hhead)).2 rfl⟩

/-- The hyphen of a negative power stands between a letter and a digit. -/
theorem quiet_scientificText {positivePower digits : Text} (hne : digits ≠ [])
    (hpositive : ∀ c ∈ positivePower, c ≠ '\'' ∧ c ≠ '-')
    (hdigits : ∀ c ∈ digits, c ≠ '\'' ∧ c ≠ '-') (power : Int) :
    Quiet (scientificText positivePower digits power) ∧
      (scientificText positivePower digits power).head? ≠ some '-' := by
  obtain ⟨mantissa, hmantissa, hplain, htext⟩ : ∃ mantissa : Text, mantissa ≠ [] ∧
      (∀ c ∈ mantissa, c ≠ '\'' ∧ c ≠ '-') ∧ scientificText positivePower digits power =
        mantissa ++ 'e' :: (if power < 0 then Text.ofInt power
          else positivePower ++ Text.ofInt power) := by
    match digits, hne with
    | [digit], _ => exact ⟨[digit], by simp, hdigits, rfl⟩
    | first :: second :: rest, _ =>
        refine ⟨first :: '.' :: second :: rest, by simp, fun c hc => ?_, rfl⟩
        simp only [List.mem_cons] at hc hdigits
        rcases hc with rfl | rfl | hc
        · exact hdigits c (.inl rfl)
        · decide
        · exact hdigits c (.inr hc)
  have hletter : Quiet ['e'] := .of_plain (by simp) (forall_mem_of_all (by decide))
  have hpower : Quiet (if power < 0 then Text.ofInt power
      else positivePower ++ Text.ofInt power) := by
    split_ifs with hnegative
    · exact (Text.quiet_ofInt power).1
    · by_cases hnil : positivePower = []
      · rw [hnil]
        exact (Text.quiet_ofInt power).1
      · exact (Quiet.of_plain hnil hpositive).append (Text.quiet_ofInt power).1
  rw [htext]
  refine ⟨(Quiet.of_plain hmantissa hplain).append (hletter.append hpower), fun hhead => ?_⟩
  rw [List.head?_append_of_ne_nil _ hmantissa] at hhead
  exact (hplain _ (List.mem_of_mem_head? hhead)).2 rfl

theorem quiet_writeDecimal (layout : Layout)
    (hafter : ∀ c ∈ layout.afterInteger, c ≠ '\'' ∧ c ≠ '-')
    (hpositive : ∀ c ∈ layout.positivePower, c ≠ '\'' ∧ c ≠ '-') (d : Decimal) :
    Quiet (layout.writeDecimal d) ∧
      ((layout.writeDecimal d).head? = some '-' ↔ d.negative = true) := by
  have hunsigned : ∀ power, Quiet (if layout.positional power then
        positionalText layout.afterInteger (Text.ofNat d.digits) power
      else scientificText layout.positivePower (Text.ofNat d.digits) power) ∧
      (if layout.positional power then
        positionalText layout.afterInteger (Text.ofNat d.digits) power
      else scientificText layout.positivePower (Text.ofNat d.digits) power).head? ≠ some '-' := by
    intro power
    split_ifs
    · exact quiet_positionalText (Text.ofNat_ne_nil _) hafter (fun _ => plain_of_mem_ofNat) power
    · exact quiet_scientificText (Text.ofNat_ne_nil _) hpositive (fun _ => plain_of_mem_ofNat) power
  simp only [writeDecimal]
  obtain ⟨hquiet, hhead⟩ := hunsigned
    (if d.digits = 0 then 0 else d.exponent + (Text.ofNat d.digits).length - 1)
  cases d.negative with
  | true => exact ⟨hquiet.cons_hyphen hhead, iff_of_true rfl rfl⟩
  | false => exact ⟨hquiet, iff_of_false hhead (by simp)⟩

end Layout

/-- A number below zero, or the floating-point zero with a minus sign. -/
def JsonNumber.IsNegative : JsonNumber → Prop
  | whole n => n < 0
  | real x => x.negative = true

theorem Json.quiet_writeNumber (n : JsonNumber) :
    Quiet (writeNumber n) ∧ ((writeNumber n).head? = some '-' ↔ n.IsNegative) := by
  cases n with
  | whole n => exact Text.quiet_ofInt n
  | real x =>
      obtain ⟨hquiet, hhead⟩ := Layout.quiet_writeDecimal realLayout
        (forall_mem_of_all (by decide)) (forall_mem_of_all (by decide))
        (x.shortest .double realLayout.tie).normal
      refine ⟨hquiet, hhead.trans ?_⟩
      rw [Decimal.negative_normal, Dyadic.negative_shortest]
      rfl

/-! ## Values -/

namespace Piece

/-- The contents of a literal never leave it. -/
theorem regionAfter_doubleQuotes (t : Text) :
    regionAfter .literal (doubleQuotes t ++ ['\'']) = .code := by
  induction t with
  | nil => rfl
  | cons c t ih =>
      by_cases hc : c = '\''
      · simpa [doubleQuotes, hc, regionAfter] using ih
      · simpa [doubleQuotes, hc, regionAfter] using ih

theorem regionAfter_of_doubleQuotes_eq {t a b : Text}
    (h : doubleQuotes t ++ ['\''] = a ++ '-' :: b) : regionAfter .literal a = .literal := by
  induction t generalizing a with
  | nil =>
      cases a with
      | nil => simp [doubleQuotes] at h
      | cons d a => simp [doubleQuotes] at h
  | cons c t ih =>
      by_cases hc : c = '\''
      · -- a doubled quote closes the literal and opens it again
        match a with
        | [] => simp [doubleQuotes, hc] at h
        | [d] => simp [doubleQuotes, hc] at h
        | d :: e :: a =>
            simp only [doubleQuotes, List.flatMap_cons, hc, if_true, List.cons_append,
              List.nil_append, List.cons.injEq] at h
            obtain ⟨rfl, rfl, h⟩ := h
            have hrest : regionAfter .literal a = .literal := ih h
            simpa [regionAfter] using hrest
      · cases a with
        | nil => rfl
        | cons d a =>
            simp only [doubleQuotes, List.flatMap_cons, hc, if_false, List.cons_append,
              List.nil_append, List.cons.injEq] at h
            obtain ⟨rfl, h⟩ := h
            simpa [regionAfter, hc] using ih h

/-- A text that stands for `v` in code: it leaves code as it is, holds two hyphens in a row only
between its quotes, and begins with a hyphen only when `v` is negative. -/
structure IsLiteral (v : Json) (t : Text) : Prop where
  ne_nil : t ≠ []
  getLast? : t.getLast? ≠ some '-'
  head? : t.head? = some '-' ↔ ∃ n, v = .number n ∧ n.IsNegative
  region : regionAfter .code t = .code
  inside : ∀ a b, t = a ++ '-' :: '-' :: b → regionAfter .code a = .literal

theorem isLiteral_of_quiet {v : Json} {t : Text} (h : Quiet t)
    (hhead : t.head? = some '-' ↔ ∃ n, v = .number n ∧ n.IsNegative) : IsLiteral v t where
  ne_nil := h.ne_nil
  getLast? := h.getLast?
  head? := hhead
  region := h.regionAfter_code
  inside a b heq := by
    obtain ⟨_, hmarker, _⟩ := List.isChain_append.1 (heq ▸ h.chain)
    exact absurd rfl ((List.isChain_cons_cons.1 hmarker).1 rfl)

theorem isLiteral_of_word {v : Json} {t : Text} (hne : t ≠ [])
    (h : ∀ c ∈ t, c ≠ '\'' ∧ c ≠ '-') (hv : ∀ n, v ≠ .number n) : IsLiteral v t := by
  refine isLiteral_of_quiet (.of_plain hne h) (iff_of_false (fun hhead => ?_) ?_)
  · exact (h _ (List.mem_of_mem_head? hhead)).2 rfl
  · rintro ⟨n, hn, _⟩
    exact hv n hn

theorem isLiteral_of_literal? {v : Json} {t : Text} (h : literal? v = some t) :
    IsLiteral v t := by
  match v, h with
  | .null, h =>
      obtain rfl := Option.some.inj h
      exact isLiteral_of_word (by decide) (forall_mem_of_all (by decide)) (by simp)
  | .bool true, h =>
      obtain rfl := Option.some.inj h
      exact isLiteral_of_word (by decide) (forall_mem_of_all (by decide)) (by simp)
  | .bool false, h =>
      obtain rfl := Option.some.inj h
      exact isLiteral_of_word (by decide) (forall_mem_of_all (by decide)) (by simp)
  | .number n, h =>
      obtain rfl := Option.some.inj h
      obtain ⟨hquiet, hhead⟩ := Json.quiet_writeNumber n
      exact isLiteral_of_quiet hquiet (hhead.trans (by simp))
  | .text u, h =>
      obtain rfl := Option.some.inj h
      have hlast : ('\'' :: doubleQuotes u ++ ['\'']).getLast? ≠ some '-' := by
        rw [List.getLast?_concat]
        decide
      refine ⟨by simp, hlast, by simp, regionAfter_doubleQuotes u, fun a b heq => ?_⟩
      cases a with
      | nil => simp at heq
      | cons d a =>
          obtain ⟨rfl, hinside⟩ := List.cons.inj heq
          have hrest : regionAfter .literal a = .literal := regionAfter_of_doubleQuotes_eq hinside
          simpa [regionAfter] using hrest

end Piece

end LotSearch
