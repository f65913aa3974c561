import LotSearch.Proofs.Request.Phrase
import LotSearch.Proofs.Request.Statement
import LotSearch.Proofs.Text.Delimited

/-!
# Amounts of area and amounts of money

A request can bound the lot area and the assessed value, and one amount should not do both.  The
amount of the area is preceded by blanks and followed by its unit, so no amount of money overlaps
it but one that ends at the same place, and then both phrases read the same multiplier.  Behind
that multiplier stands the unit of the area, and the search for money looks for a unit there.  It
knows all units of area but one, `sqfeet`.
-/

namespace LotSearch

open Pattern

def Span.Apart (a b : Span) : Prop := a.stop ≤ b.start ∨ b.stop ≤ a.start

/-- Whether a span is a part of a text. -/
def Span.In (t : Text) (a : Span) : Prop := a.onward = t.drop a.start ∧ a.stop ≤ t.length

/-! ## Runs of characters -/

namespace Text

/-- Whether the characters of a text from `i` up to `j` are of a class. -/
def Run (accepts : Char → Bool) (t : Text) (i j : Nat) : Prop :=
  ∀ k, i ≤ k → k < j → ∃ c, t[k]? = some c ∧ accepts c = true

theorem run_between {accepts : Char → Bool} (before : Text) {u : Text} (behind : Text)
    (h : ∀ c ∈ u, accepts c = true) :
    Run accepts (before ++ (u ++ behind)) before.length (before.length + u.length) := by
  intro k hfirst hlast
  obtain ⟨i, rfl⟩ := Nat.exists_eq_add_of_le hfirst
  have hi : i < u.length := by omega
  refine ⟨u[i], ?_, h _ (List.getElem_mem hi)⟩
  rw [List.getElem?_append_right hfirst, Nat.add_sub_cancel_left, List.getElem?_append_left hi,
    List.getElem?_eq_getElem hi]

theorem run_head (accepts : Char → Bool) (before : Text) {behind : Text} {c : Char}
    (hc : behind.head? = some c) (h : accepts c = true) :
    Run accepts (before ++ behind) before.length (before.length + 1) := by
  obtain ⟨rest, rfl⟩ := List.head?_eq_some_iff.1 hc
  exact run_between before rest (List.forall_mem_singleton.2 h)

/-- Runs of different classes have no place in common. -/
theorem Run.apart {p q : Char → Bool} {t : Text} {i j i' j' : Nat} (hp : Run p t i j)
    (hq : Run q t i' j') (h : ∀ c, p c = true → q c = false) : min j j' ≤ max i i' := by
  by_contra hlt
  obtain ⟨c, hc, hpc⟩ := hp (max i i') (by omega) (by omega)
  obtain ⟨d, hd, hqd⟩ := hq (max i i') (by omega) (by omega)
  obtain rfl : c = d := Option.some.inj (hc.symm.trans hd)
  simp [h c hpc] at hqd

end Text

theorem isAmountChar_of_isBlank {c : Char} (h : isBlank c = true) : isAmountChar c = false := by
  have hcomma : c ≠ ',' := ne_of_class h (by decide)
  have hpoint : c ≠ '.' := ne_of_class h (by decide)
  simp [isAmountChar, isFigure, isDigit_of_isBlank h, hcomma, hpoint]

theorem not_isFigure_of_isBlank {c : Char} (h : isBlank c = true) : (!isFigure c) = true := by
  have hamount := isAmountChar_of_isBlank h
  rw [isAmountChar, Bool.or_eq_false_iff] at hamount
  rw [hamount.1, Bool.not_false]

theorem forall_mem_of_word {p : Char → Bool} {words : List String} {word : String}
    (h : (words.all fun word => word.toList.all p) = true) (hword : word ∈ words) :
    ∀ c ∈ word.toList, p c = true :=
  List.all_eq_true.1 (List.all_eq_true.1 h word hword)

namespace AmountPhrase

variable (p : AmountPhrase)

theorem run_digits : Text.Run isAmountChar p.text p.span.start p.span.stop :=
  Text.run_between p.before p.behind (Vocabulary.isAmountChar_of_mem p.amount_digits)

/-- No amount ends in its point. -/
theorem run_last : ∃ last, p.span.start ≤ last ∧ last + 1 = p.span.stop ∧
    Text.Run isFigure p.text last (last + 1) := by
  obtain ⟨init, c, heq, hc⟩ := Vocabulary.exists_last_of_amount p.amount_digits
  refine ⟨(p.before ++ init).length, by simp [span], by simp [span, heq, Nat.add_assoc], ?_⟩
  have hrun := Text.run_between (p.before ++ init) p.behind (List.forall_mem_singleton.2 hc)
  simpa [text, heq] using hrun

theorem start_lt_stop : p.span.start < p.span.stop := by
  obtain ⟨last, hstart, hstop, -⟩ := p.run_last
  omega

theorem stop_le {u rest : Text} (h : p.behind = u ++ rest) :
    p.span.stop + rest.length ≤ p.text.length := by
  simp only [text, span, h, Span.stop_between, List.length_append]
  omega

/-- An amount that is no longer than it can be ends before any other character. -/
theorem run_next (h : ∃ c, p.behind.head? = some c ∧ isAmountChar c = false) :
    Text.Run (fun c => !isAmountChar c) p.text p.span.stop (p.span.stop + 1) := by
  obtain ⟨c, hhead, hc⟩ := h
  have hrun := Text.run_head (fun c => !isAmountChar c) (p.before ++ p.digits) hhead
    (by simpa using hc)
  simpa [text, span] using hrun

theorem run_behind {u rest : Text} (h : p.behind = u ++ rest)
    (hu : ∀ c ∈ u, (!isFigure c) = true) :
    Text.Run (fun c => !isFigure c) p.text p.span.stop (p.text.length - rest.length) := by
  have hlength : p.text.length - rest.length = (p.before ++ p.digits).length + u.length := by
    simp only [text, h, List.length_append]
    omega
  have hrun := Text.run_between (p.before ++ p.digits) rest hu
  rw [hlength]
  simpa [text, span, h] using hrun

theorem in_span : p.span.In p.text := by
  refine ⟨?_, Nat.le_of_add_right_le (p.stop_le (List.append_nil _).symm)⟩
  rw [text, span, Span.start_between, List.drop_left]
  rfl

end AmountPhrase

theorem head?_append_of_blank {gap tail : Text} (hgap : ∀ c ∈ gap, isBlank c = true)
    (htail : ∃ c, tail.head? = some c ∧ isAmountChar c = false) :
    ∃ c, (gap ++ tail).head? = some c ∧ isAmountChar c = false := by
  cases gap with
  | nil => exact htail
  | cons c gap => exact ⟨c, rfl, isAmountChar_of_isBlank (hgap c List.mem_cons_self)⟩

namespace Vocabulary

theorem not_isFigure_of_mem_areaUnit {u : Text} (h : areaUnit.Spells u) :
    ∀ c ∈ u, (!isFigure c) = true := by
  rcases areaUnit_cases h with ⟨space, word, hword, rfl, -, hblank⟩ |
    ⟨point, hpoint, space, word, hword, rfl, hblank⟩ | rfl | rfl
  · simp only [List.forall_mem_append]
    refine ⟨forall_mem_of_all (by decide), fun c hc => not_isFigure_of_isBlank (hblank c hc), ?_⟩
    exact forall_mem_of_word (by decide) hword
  · simp only [List.forall_mem_append]
    refine ⟨forall_mem_of_all (by decide), forall_mem_of_word (by decide) hpoint,
      fun c hc => not_isFigure_of_isBlank (hblank c hc), forall_mem_of_word (by decide) hword⟩
  · exact forall_mem_of_all (by decide)
  · exact forall_mem_of_all (by decide)

end Vocabulary

theorem mem_moneyMultipliers {word : String} (h : word ∈ areaMultipliers) :
    word ∈ moneyMultipliers := by
  have hall : ∀ word ∈ areaMultipliers, word ∈ moneyMultipliers := by decide
  exact hall word h

theorem not_isFigure_of_mem_multiplier {word : String} (h : word ∈ moneyMultipliers) :
    ∀ c ∈ word.toList, (!isFigure c) = true :=
  forall_mem_of_word (by decide) h

namespace AreaEnding

variable {t : Text}

theorem head?_unit (e : AreaEnding t) : (e.unit ++ e.rest).head? = some 's' := by
  rw [List.head?_append, Vocabulary.head?_of_areaUnit e.areaUnit_unit, Option.some_or]

theorem not_isBlank_head?_unit (e : AreaEnding t) :
    (e.unit ++ e.rest).head?.any isBlank = false := by
  rw [e.head?_unit]
  decide

theorem blank_gap_space (e : AreaEnding t) : ∀ c ∈ e.gap ++ e.space, isBlank c = true :=
  List.forall_mem_append.2 ⟨e.blank_gap, e.blank_space⟩

theorem head?_text (e : AreaEnding t) : ∃ c, t.head? = some c ∧ isAmountChar c = false := by
  rw [e.text_eq]
  apply head?_append_of_blank e.blank_gap
  rcases e.multiple_eq with hnone | ⟨word, hword, heq⟩
  · rw [hnone, List.nil_append]
    apply head?_append_of_blank e.blank_space
    exact ⟨'s', e.head?_unit, by decide⟩
  · rw [heq]
    obtain ⟨c, hhead, hc, -⟩ := head?_of_multiplier (e.space ++ (e.unit ++ e.rest))
      (mem_moneyMultipliers hword)
    exact ⟨c, hhead, hc⟩

theorem exists_append (e : AreaEnding t) :
    ∃ u, t = u ++ e.rest ∧ ∀ c ∈ u, (!isFigure c) = true := by
  have hmultiple : ∀ c ∈ e.multiple, (!isFigure c) = true := by
    rcases e.multiple_eq with hnone | ⟨word, hword, heq⟩
    · simp [hnone]
    · rw [heq]
      exact not_isFigure_of_mem_multiplier (mem_moneyMultipliers hword)
  refine ⟨e.gap ++ (e.multiple ++ (e.space ++ e.unit)), ?_, ?_⟩
  · simpa only [List.append_assoc] using e.text_eq
  · simp only [List.forall_mem_append]
    exact ⟨fun c hc => not_isFigure_of_isBlank (e.blank_gap c hc), hmultiple,
      fun c hc => not_isFigure_of_isBlank (e.blank_space c hc),
      Vocabulary.not_isFigure_of_mem_areaUnit e.areaUnit_unit⟩

end AreaEnding

namespace AreaPhrase

variable (p : AreaPhrase)

/-- Before the amount stand blanks, behind a word. -/
theorem runs_before : ∃ first last, first + 2 ≤ p.span.start ∧ last < p.span.start ∧
    Text.Run (· != '$') p.text first p.span.start ∧ Text.Run isBlank p.text last p.span.start := by
  obtain ⟨hlead, hblank⟩ := spells_repeated.1 p.blanks_lead
  have hword : p.words ≠ [] ∧ '$' ∉ p.words := by
    have hwords : ∀ word ∈ Vocabulary.comparisonWords, word.toList ≠ [] ∧ '$' ∉ word.toList := by
      decide
    obtain ⟨word, hword, heq⟩ := (spells_words Vocabulary.comparisonWords).1 p.comparison_words
    rw [heq]
    exact hwords word hword
  have hlength : 1 ≤ p.words.length ∧ 1 ≤ p.lead.length :=
    ⟨List.length_pos_iff.2 hword.1, List.length_pos_iff.2 hlead⟩
  have hplain : ∀ c ∈ p.words ++ p.lead, (c != '$') = true := by
    intro c hc
    rw [bne_iff_ne]
    rcases List.mem_append.1 hc with hc | hc
    · exact ne_of_mem_of_not_mem hc hword.2
    · exact ne_of_class (hblank c hc) (by decide)
  have hstart : p.span.start = p.front.length + (p.words.length + p.lead.length) := by
    simp [AmountPhrase.span, p.before_eq]
  refine ⟨p.front.length, (p.front ++ p.words).length, by omega, ?_, ?_, ?_⟩
  · rw [List.length_append]
    omega
  · have hrun := Text.run_between p.front (p.digits ++ p.behind) hplain
    simpa [AmountPhrase.text, p.before_eq, hstart] using hrun
  · have hrun := Text.run_between (p.front ++ p.words) (p.digits ++ p.behind) hblank
    simpa [AmountPhrase.text, p.before_eq, hstart, Nat.add_assoc] using hrun

end AreaPhrase

namespace MoneyPhrase

variable (p : MoneyPhrase)

theorem exists_append : ∃ u, p.behind = u ++ p.rest ∧ ∀ c ∈ u, (!isFigure c) = true := by
  refine ⟨p.gap ++ p.multiple, by rw [p.behind_eq, List.append_assoc], ?_⟩
  rw [List.forall_mem_append]
  refine ⟨fun c hc => not_isFigure_of_isBlank (p.blank_gap c hc), ?_⟩
  rcases p.multiple_eq with hnone | ⟨word, hword, heq, -⟩
  · simp [hnone]
  · rw [heq]
    exact not_isFigure_of_mem_multiplier hword

theorem head?_behind (h : p.multiple ≠ []) :
    ∃ c, p.behind.head? = some c ∧ isAmountChar c = false := by
  rw [p.behind_eq]
  apply head?_append_of_blank p.blank_gap
  obtain ⟨word, hword, heq, -⟩ := p.multiple_eq.resolve_left h
  rw [heq]
  obtain ⟨c, hhead, hc, -⟩ := head?_of_multiplier p.rest hword
  exact ⟨c, hhead, hc⟩

theorem run_dollar (h : p.multiple = []) : ∃ sign, sign < p.span.start ∧
    p.span.start ≤ sign + 2 ∧ Text.Run (· == '$') p.text sign (sign + 1) := by
  obtain ⟨front, space, hbefore, hspace⟩ := p.money.resolve_right (not_not_intro h)
  have hstart : p.span.start = front.length + (space.length + 1) := by
    simp [AmountPhrase.span, hbefore]
  refine ⟨front.length, by omega, by omega, ?_⟩
  rw [AmountPhrase.text, hbefore, List.append_assoc]
  exact Text.run_head _ front rfl rfl

end MoneyPhrase

/-! ## Units behind an amount of money -/

namespace Vocabulary

/-- The only unit of area that is not looked for behind an amount of money. -/
theorem eq_of_areaAfterAmount {gap u rest : Text} (hgap : ∀ c ∈ gap, isBlank c = true)
    (hu : areaUnit.Spells u) (hboundary : Text.boundary u.getLast? rest.head? = true)
    (hnone : areaAfterAmount.fitAt none 0 (gap ++ (u ++ rest)) = none) : u = "sqfeet".toList := by
  -- were any of the alternatives there, it would have been found
  have hno : ∀ v behind : Text, u ++ rest = v ++ behind →
      ¬ (anyOf ["square" ++ blanks ++ anyOf ["feet", "foot", "ft"], "sq" ++ edge, "sqft" ++ edge,
        "sf" ++ edge]).Covers gap v behind [] := by
    intro v behind heq hunit
    have hcovers : areaAfterAmount.Covers [] (gap ++ v) behind [] :=
      ⟨gap, v, [], [], rfl, rfl, ⟨hgap, rfl⟩, hunit⟩
    have hfit := hcovers.isSome_fitAt ⟨rfl, rfl⟩
    rw [List.append_assoc, ← heq, hnone] at hfit
    cases hfit
  rcases areaUnit_cases hu with ⟨space, word, hword, rfl, hspace⟩ |
    ⟨point, hpoint, space, word, hword, rfl, hblank⟩ | rfl | rfl
  · refine absurd (.inl ((covers_iff_of_bare (by decide)).2 ⟨?_, rfl⟩)) (hno _ rest rfl)
    refine ⟨"square".toList ++ space, word.toList, (List.append_assoc _ _ _).symm, ?_, ?_⟩
    · exact ⟨_, space, rfl, spells_literal.2 rfl, spells_repeated.2 hspace⟩
    · exact (spells_words ["feet", "foot", "ft"]).2 ⟨word, hword, rfl⟩
  · -- the search takes `sq` for a unit wherever it ends a word, so a letter or digit must follow
    have hsq : ∀ (c : Char) (behind : Text),
        point.toList ++ (space ++ word.toList) ++ rest = c :: behind → isWord c = true := by
      intro c behind heq
      by_contra hedge
      have hboundary : Text.boundary (some 'q') (some c) = true := by
        have hletter : isWord 'q' = true := by decide
        simpa [Text.boundary, hletter] using hedge
      apply hno "sq".toList (c :: behind) (by rw [← heq, List.append_assoc])
      exact .inr (.inl (covers_word (by decide) hboundary))
    rcases List.mem_pair.1 hpoint with rfl | rfl
    · cases space with
      | nil =>
          rcases List.mem_pair.1 hword with rfl | rfl
          · rfl
          · exact absurd (.inr (.inr (.inl (covers_word (by decide) hboundary)))) (hno _ rest rfl)
      | cons c space =>
          have hblank := isWord_of_isBlank (hblank c List.mem_cons_self)
          simp [hsq c _ rfl] at hblank
    · exact absurd (hsq '.' _ rfl) (by decide)
  · exact absurd (.inr (.inr (.inl (covers_word (by decide) hboundary)))) (hno _ rest rfl)
  · exact absurd (.inr (.inr (.inr (covers_word (by decide) hboundary)))) (hno _ rest rfl)

end Vocabulary

/-- A multiplier of money that ends at the boundary of a word is the multiplier of the area. -/
theorem append_cancel_of_multiple {word word' : String} {s t : Text}
    (hword : word ∈ areaMultipliers) (hword' : word' ∈ moneyMultipliers)
    (hboundary : Text.boundary word'.toList.getLast? t.head? = true)
    (h : word.toList ++ s = word'.toList ++ t) : s = t := by
  have hlonger : ∀ word ∈ areaMultipliers, ∀ word' ∈ moneyMultipliers,
      word.toList <+: word'.toList → word'.toList = word.toList := by decide
  have hshorter : ∀ word ∈ areaMultipliers, ∀ word' ∈ moneyMultipliers,
      word'.toList <+: word.toList → word.toList = word'.toList ∨
        Text.boundary word'.toList.getLast? (word.toList.drop word'.toList.length).head? =
          false := by decide
  -- no multiplier of areas begins another one; `mil` and `m` begin `million`, but end no word there
  rcases List.append_eq_append_iff.1 h with ⟨z, hz, hs⟩ | ⟨z, hz, ht⟩
  · have heq := hlonger word hword word' hword' ⟨z, hz.symm⟩
    obtain rfl : z = [] := by simpa [heq] using hz
    exact hs
  · rcases hshorter word hword word' hword' ⟨z, hz.symm⟩ with heq | hinside
    · obtain rfl : z = [] := by simpa [heq] using hz
      exact ht.symm
    · rw [hz, List.drop_left] at hinside
      cases z with
      | nil => exact ht.symm
      | cons c z =>
          rw [ht] at hboundary
          exact absurd hboundary (by simpa using hinside)

namespace MoneyPhrase

variable (q : MoneyPhrase) {t : Text} (ht : q.behind = t) (e : AreaEnding t)

theorem unit_eq_of_rest {space : Text} (hspace : ∀ c ∈ space, isBlank c = true)
    (hrest : q.rest = space ++ (e.unit ++ e.rest)) : e.unit = "sqfeet".toList := by
  have harea := q.no_area
  rw [hrest] at harea
  exact Vocabulary.eq_of_areaAfterAmount hspace e.areaUnit_unit e.boundary_unit harea

include ht

theorem rest_eq (h : q.multiple ≠ []) :
    e.multiple ≠ [] ∧ e.space ≠ [] ∧ q.rest = e.space ++ (e.unit ++ e.rest) := by
  obtain ⟨word', hword', heq', hboundary⟩ := q.multiple_eq.resolve_left h
  have hbehind := q.behind_eq.symm.trans (ht.trans e.text_eq)
  rw [heq'] at hbehind
  obtain ⟨c, hc, -, hblank, hletter⟩ := head?_of_multiplier q.rest hword'
  have hhead : (word'.toList ++ q.rest).head?.any isBlank = false := by simp [hc, hblank]
  rcases e.multiple_eq with hnone | ⟨word, hword, heq⟩
  · rw [hnone, List.nil_append, ← List.append_assoc e.gap] at hbehind
    have hsame := append_cancel_of_class q.blank_gap e.blank_gap_space hhead
      e.not_isBlank_head?_unit hbehind
    rw [hsame, e.head?_unit] at hc
    exact absurd (Option.some.inj hc).symm hletter
  · rw [heq] at hbehind
    obtain ⟨d, hd, -, hblank', -⟩ := head?_of_multiplier (e.space ++ (e.unit ++ e.rest))
      (mem_moneyMultipliers hword)
    have hsame := append_cancel_of_class q.blank_gap e.blank_gap hhead (by simp [hd, hblank'])
      hbehind
    have hrest := append_cancel_of_multiple hword hword' hboundary hsame.symm
    refine ⟨?_, ?_, hrest.symm⟩
    · rw [heq]
      exact toList_ne_nil_of_multiplier (mem_moneyMultipliers hword)
    · intro hnone
      have hinside : ∀ word ∈ moneyMultipliers,
          Text.boundary word.toList.getLast? (some 's') = false := by decide
      rw [← hrest, hnone, List.nil_append, e.head?_unit, hinside word' hword'] at hboundary
      cases hboundary

/-- A multiplier of the area that is not read as one of money does not end a word. -/
theorem space_eq_nil (h : q.multiple = []) (hmultiple : e.multiple ≠ []) : e.space = [] := by
  obtain ⟨word, hword, heq⟩ := e.multiple_eq.resolve_left hmultiple
  have hword' := mem_moneyMultipliers hword
  have hinside := q.no_multiple h e.gap word (e.space ++ (e.unit ++ e.rest))
    (by rw [ht, ← heq, ← e.text_eq]) e.blank_gap hword'
  cases hspace : e.space with
  | nil => rfl
  | cons c space =>
      have hletter : ∀ word ∈ moneyMultipliers, word.toList.getLast?.any isWord = true := by
        decide
      have hblank : isWord c = false := isWord_of_isBlank (e.blank_space c (by simp [hspace]))
      simp [Text.boundary, hspace, hletter word hword', hblank] at hinside

/-- Behind an amount that is read as money stands no unit of area, apart from one that is not
looked for and from one that is written together with a multiplier. -/
theorem unit_eq : e.unit = "sqfeet".toList ∨ e.multiple ≠ [] ∧ e.space = [] := by
  by_cases hmoney : q.multiple = []
  · by_cases harea : e.multiple = []
    · left
      have hbehind := q.behind_eq.symm.trans (ht.trans e.text_eq)
      rw [hmoney, harea, List.nil_append, List.nil_append, ← List.append_assoc e.gap] at hbehind
      obtain ⟨space, hspace, hrest⟩ := exists_append_of_class q.blank_gap e.blank_gap_space
        e.not_isBlank_head?_unit hbehind
      exact q.unit_eq_of_rest e hspace hrest
    · exact .inr ⟨harea, q.space_eq_nil ht e hmoney harea⟩
  · left
    obtain ⟨-, -, hrest⟩ := q.rest_eq ht e hmoney
    exact q.unit_eq_of_rest e e.blank_space hrest

end MoneyPhrase

/-! ## One amount read twice -/

/-- Where an amount is read as an area and as money, both readings end with the amount. -/
theorem stop_eq_of_overlap {p : AreaPhrase} {q : MoneyPhrase} (htext : p.text = q.text)
    (hp : p.span.start < q.span.stop) (hq : q.span.start < p.span.stop) :
    q.multiple ≠ [] ∧ p.span.stop = q.span.stop := by
  have hblank : ∀ c, isAmountChar c = true → isBlank c = false := by
    intro c hc
    by_contra hno
    simp [isAmountChar_of_isBlank (by simpa using hno)] at hc
  have hother : ∀ c, isAmountChar c = true → (!isAmountChar c) = false := by simp
  have hdollar : ∀ c, isAmountChar c = true → (c == '$') = false := by
    intro c hc
    simpa using ne_of_class hc (d := '$') (by decide)
  have hdigits := p.run_digits
  have hdigits' := q.run_digits
  rw [← htext] at hdigits'
  obtain ⟨first, last, hfirst, hlast, hplain, hlead⟩ := p.runs_before
  have hstart := hdigits'.apart hlead hblank
  have hstop := hdigits'.apart (p.run_next p.ending.head?_text) hother
  have hmultiple : q.multiple ≠ [] := by
    intro hnone
    -- the sign would stand among the two characters in front of the area, or among its digits
    obtain ⟨sign, hsign, hnear, hrun⟩ := q.run_dollar hnone
    rw [← htext] at hrun
    have hfront := hplain.apart hrun (by simp)
    have hamount := hdigits.apart hrun hdollar
    omega
  -- behind a multiplier of its own the money ends before a character that is in no amount
  have hnext := q.run_next (q.head?_behind hmultiple)
  rw [← htext] at hnext
  have hstop' := hdigits.apart hnext hother
  exact ⟨hmultiple, by omega⟩

/-- Two amounts with no figure between them and the end of the unit are one. -/
theorem stop_eq_of_rest {p : AreaPhrase} {q : MoneyPhrase} {u : Text} (htext : p.text = q.text)
    (hrest : q.rest = u ++ p.ending.rest) (hu : ∀ c ∈ u, (!isFigure c) = true) :
    p.span.stop = q.span.stop := by
  have hfigure : ∀ c, isFigure c = true → (!isFigure c) = false := by simp
  obtain ⟨last, -, hlast, hdigit⟩ := p.run_last
  obtain ⟨last', -, hlast', hdigit'⟩ := q.run_last
  obtain ⟨v, hv, hplain⟩ := p.ending.exists_append
  obtain ⟨w, hw, hplain'⟩ := q.exists_append
  rw [hrest, ← List.append_assoc] at hw
  have hbehind := p.run_behind hv hplain
  have hbehind' := q.run_behind hw (List.forall_mem_append.2 ⟨hplain', hu⟩)
  have hle := p.stop_le hv
  have hle' := q.stop_le hw
  rw [← htext] at hbehind' hdigit' hle'
  have hmoney := hdigit.apart hbehind' hfigure
  have harea := hdigit'.apart hbehind hfigure
  omega

theorem apart_iff {p : AreaPhrase} {q : MoneyPhrase} (htext : p.text = q.text) :
    p.span.Apart q.span ↔ ¬ ∃ space : Text, space ≠ [] ∧ (∀ c ∈ space, isBlank c = true) ∧
      q.rest = space ++ ("sqfeet".toList ++ p.ending.rest) := by
  constructor
  · rintro hapart ⟨space, -, hspace, hrest⟩
    have hunit : ∀ c ∈ space ++ "sqfeet".toList, (!isFigure c) = true := by
      rw [List.forall_mem_append]
      exact ⟨fun c hc => not_isFigure_of_isBlank (hspace c hc), forall_mem_of_all (by decide)⟩
    rw [← List.append_assoc] at hrest
    have hstop := stop_eq_of_rest htext hrest hunit
    have hlast := p.start_lt_stop
    have hlast' := q.start_lt_stop
    rcases hapart with hle | hle <;> omega
  · intro hno
    by_contra hoverlap
    -- the two phrases read on from the same place, and so they read the same multiplier
    obtain ⟨hmultiple, hstop⟩ := stop_eq_of_overlap htext
      (not_le.1 fun hle => hoverlap (.inr hle)) (not_le.1 fun hle => hoverlap (.inl hle))
    have hbehind : q.behind = p.behind := by
      have hsplit : (p.before ++ p.digits) ++ p.behind = (q.before ++ q.digits) ++ q.behind := by
        simpa only [AmountPhrase.text, List.append_assoc] using htext
      have hlength : (p.before ++ p.digits).length = (q.before ++ q.digits).length := by
        simpa only [AmountPhrase.span, Span.stop_between, List.length_append] using hstop
      exact (List.append_inj hsplit hlength).2.symm
    obtain ⟨-, hspace, hrest⟩ := q.rest_eq hbehind p.ending hmultiple
    have hunit := (q.unit_eq hbehind p.ending).resolve_right fun h => hspace h.2
    rw [hunit] at hrest
    exact hno ⟨p.ending.space, hspace, p.ending.blank_space, hrest⟩

/-! ## The amounts of a request -/

namespace Search

variable {lower : Text} {bound : Threshold}

theorem exists_fit_of_lotAreaOf (h : lotAreaOf lower = some bound) :
    ∃ fit digits, Vocabulary.lotSize.find lower = some fit ∧ fit.groupText? 2 = some digits ∧
      (Amount.read? digits).map (Amount.inUnit (fit.groupText? 3)) = some bound.amount := by
  simp only [lotAreaOf, Option.bind_eq_bind, Option.bind_eq_some_iff] at h
  obtain ⟨fit, hfit, words, -, digits, hdigits, value, hvalue, hbound⟩ := h
  cases hbound
  exact ⟨fit, digits, hfit, hdigits, by rw [hvalue, Option.map_some]⟩

theorem exists_fit_of_assessedValueOf (h : assessedValueOf lower = some bound) :
    ∃ fit digits, (Vocabulary.money.findAll lower).find? isMoney = some fit ∧
      fit.groupText? 3 = some digits ∧
      (Amount.read? digits).map (Amount.inUnit (fit.groupText? 4)) = some bound.amount := by
  simp only [assessedValueOf, Option.bind_eq_bind, Option.bind_eq_some_iff] at h
  obtain ⟨fit, hfit, digits, hdigits, value, hvalue, hbound⟩ := h
  cases hbound
  exact ⟨fit, digits, hfit, hdigits, by rw [hvalue, Option.map_some]⟩

theorem condition_mem_of_lotArea {s : Search} (h : s.lotArea = some bound) :
    bound.condition "lotarea" ∈ s.conditions := by
  simp [conditions_eq, lotFilters, h]

theorem condition_mem_of_assessedValue {s : Search} (h : s.assessedValue = some bound) :
    bound.condition "assesstot" ∈ s.conditions := by
  simp [conditions_eq, lotFilters, h]

end Search

/-- The amounts that bound the lot area and the assessed value stand apart in the request, except
when the multiplier of an amount is followed by `sqfeet`.  No other unit of area follows an amount
that is read as money, apart from one that is written together with its multiplier. -/
theorem byRules_amounts_apart_iff {request : Text} {area value : Threshold}
    (harea : (Search.read request).lotArea = some area)
    (hvalue : (Search.read request).assessedValue = some value) :
    ((Understood.byRules request).sql =
        Lots.baseSelect ++ whereClause (Search.read request).conditions ++
          Search.orderClause (Search.read request).intent ++ " LIMIT ".toList ++
          Text.ofInt (Search.read request).limit ∧
      area.condition "lotarea" ∈ (Search.read request).conditions ∧
      value.condition "assesstot" ∈ (Search.read request).conditions) ∧
    ∃ (lot money : Fit) (a b : Span),
      (Vocabulary.lotSize.find (Text.lower request) = some lot ∧ lot.group? 2 = some a ∧
        a.In (Text.lower request) ∧
        (Amount.read? a.text).map (Amount.inUnit (lot.groupText? 3)) = some area.amount) ∧
      ((Vocabulary.money.findAll (Text.lower request)).find? Search.isMoney = some money ∧
        money.group? 3 = some b ∧ b.In (Text.lower request) ∧
        (Amount.read? b.text).map (Amount.inUnit (money.groupText? 4)) = some value.amount) ∧
      (a.Apart b ↔ ¬ ∃ space : Text, space ≠ [] ∧ (∀ c ∈ space, isBlank c = true) ∧
        money.finish.rest = space ++ ("sqfeet".toList ++ lot.finish.rest)) ∧
      ∀ e : AreaEnding (b.onward.drop b.length),
        e.unit = "sqfeet".toList ∨ e.multiple ≠ [] ∧ e.space = [] := by
  obtain ⟨lot, digits, hlot, hdigits, hamount⟩ := Search.exists_fit_of_lotAreaOf harea
  obtain ⟨money, digits', hmoney, hdigits', hamount'⟩ :=
    Search.exists_fit_of_assessedValueOf hvalue
  obtain ⟨p, htext, hrest, hgroup⟩ := Vocabulary.exists_areaPhrase hlot
  obtain ⟨q, htext', hrest', hgroup'⟩ :=
    Vocabulary.exists_moneyPhrase (List.mem_of_find?_eq_some hmoney) (List.find?_some hmoney)
  rw [Fit.groupText?, hgroup, Option.map_some] at hdigits
  rw [Fit.groupText?, hgroup', Option.map_some] at hdigits'
  cases hdigits
  cases hdigits'
  have hin := p.in_span
  have hin' := q.in_span
  rw [htext] at hin
  rw [htext'] at hin'
  refine ⟨⟨Search.sql_byRules request, Search.condition_mem_of_lotArea harea,
    Search.condition_mem_of_assessedValue hvalue⟩, lot, money, p.span, q.span,
    ⟨hlot, hgroup, hin, hamount⟩, ⟨hmoney, hgroup', hin', hamount'⟩, ?_, ?_⟩
  · rw [← hrest, ← hrest']
    exact apart_iff (htext.trans htext'.symm)
  · exact q.unit_eq List.drop_left.symm

theorem byRules_amounts_apart_offices :
    ∃ a b : Span,
      (Vocabulary.lotSize.find (Text.lower
        "offices over 1.5 million sq ft under $20 million".toList)).bind (Fit.group? 2) = some a ∧
      ((Vocabulary.money.findAll (Text.lower
        "offices over 1.5 million sq ft under $20 million".toList)).find? Search.isMoney).bind
          (Fit.group? 3) = some b ∧ a.Apart b := by
  have hlotArea :
      (Search.read "offices over 1.5 million sq ft under $20 million".toList).lotArea.isSome := by
    decide +kernel
  have hassessed :
      (Search.read
        "offices over 1.5 million sq ft under $20 million".toList).assessedValue.isSome := by
    decide +kernel
  obtain ⟨area, harea⟩ := Option.isSome_iff_exists.1 hlotArea
  obtain ⟨value, hvalue⟩ := Option.isSome_iff_exists.1 hassessed
  obtain ⟨-, lot, money, a, b, ⟨hlot, ha, -, -⟩, ⟨hmoney, hb, -, -⟩, hapart, -⟩ :=
    byRules_amounts_apart_iff harea hvalue
  have hrest : ((Vocabulary.money.findAll (Text.lower
      "offices over 1.5 million sq ft under $20 million".toList)).find? Search.isMoney).map
        (fun fit => fit.finish.rest) = some [] := by decide +kernel
  rw [hmoney, Option.map_some] at hrest
  have hnone : money.finish.rest = [] := Option.some.inj hrest
  refine ⟨a, b, by rw [hlot]; exact ha, by rw [hmoney]; exact hb, hapart.2 ?_⟩
  rintro ⟨space, hne, -, heq⟩
  rw [hnone] at heq
  simp [hne] at heq

/-- The five thousand square feet are read as five thousand dollars as well. -/
theorem not_apart_sqfeet :
    (Search.read "vacant lots over 5k sqfeet".toList).conditions =
        ["(built_status = 'vacant' OR is_vacant = true)".toList, "lotarea > 5000".toList,
          "assesstot > 5000".toList] ∧
      ∃ a b : Span,
        (Vocabulary.lotSize.find (Text.lower "vacant lots over 5k sqfeet".toList)).bind
            (Fit.group? 2) = some a ∧
          ((Vocabulary.money.findAll (Text.lower "vacant lots over 5k sqfeet".toList)).find?
            Search.isMoney).bind (Fit.group? 3) = some b ∧ ¬ a.Apart b := by
  refine ⟨by decide +kernel, ⟨17, "5k sqfeet".toList, 1⟩, ⟨17, "5k sqfeet".toList, 1⟩, ?_, ?_, ?_⟩
  · decide +kernel
  · decide +kernel
  · rintro (h | h) <;> exact absurd h (by decide)

end LotSearch
