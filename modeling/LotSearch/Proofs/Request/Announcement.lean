import LotSearch.Proofs.Request.Years
import LotSearch.Proofs.Text.Distinct

/-!
# The announced number of results

An explanation announces how many results there are at most, unless that is the row ceiling.  The
words of the announcement begin nowhere else in an explanation, whatever the request says, so the
number that is announced is the one that was asked for.
-/

namespace LotSearch

open Text

def announcement (n : Nat) : Text := "Showing up to ".toList ++ Text.ofNat n ++ " results.".toList

/-- The number of results that an explanation announces, and the ceiling when it has no
announcement. -/
def Announces (explanation : Text) (n : Int) : Prop :=
  (∃ k : Nat, n = k ∧ announcement k <:+: explanation) ∨
    n = Statement.rowCeiling ∧ ∀ k, ¬ announcement k <:+: explanation

abbrev announcing : Text := 'S' :: "howing up to ".toList

theorem announcement_eq (n : Nat) :
    announcement n = announcing ++ (Text.ofNat n ++ ' ' :: "results.".toList) := by
  have hopening : "Showing up to ".toList = announcing := by decide
  have hclosing : " results.".toList = ' ' :: "results.".toList := by decide
  rw [← hopening, ← hclosing]
  exact List.append_assoc _ _ _

/-! ## The parts of an explanation -/

theorem isKeywordChar_of_mem_keywordRuns {run t word : Text}
    (hrun : ∀ c ∈ run, Vocabulary.isKeywordChar c = true)
    (h : word ∈ Vocabulary.keywordRuns run t) : ∀ c ∈ word, Vocabulary.isKeywordChar c = true := by
  have hreverse : ∀ c ∈ run.reverse, Vocabulary.isKeywordChar c = true := fun c hc =>
    hrun c (List.mem_reverse.1 hc)
  induction t generalizing run with
  | nil =>
      simp only [Vocabulary.keywordRuns] at h
      split_ifs at h
      · simp at h
      · obtain rfl := List.mem_singleton.1 h
        exact hreverse
  | cons c t ih =>
      simp only [Vocabulary.keywordRuns] at h
      split_ifs at h with hc hempty
      · have hlonger : ∀ d ∈ c :: run, Vocabulary.isKeywordChar d = true :=
          List.forall_mem_cons.2 ⟨hc, hrun⟩
        exact ih hlonger h fun d hd => hlonger d (List.mem_reverse.1 hd)
      · exact ih (by simp) h (by simp)
      · rcases List.mem_cons.1 h with rfl | h
        · exact hreverse
        · exact ih (by simp) h (by simp)

theorem isKeywordChar_of_mem_keywords {t word : Text} (h : word ∈ Vocabulary.keywords t) :
    ∀ c ∈ word, Vocabulary.isKeywordChar c = true := by
  have hrun := (List.mem_filter.1 (mem_distinct_iff.1 h)).1
  exact isKeywordChar_of_mem_keywordRuns (by simp) hrun

theorem Intent.aside_phrase (intent : Intent) : Aside announcing intent.phrase := by
  cases intent with
  | historic before =>
      have hwords : Aside announcing "Finding buildings built before ".toList :=
        .of_notMem (by decide)
      exact hwords.append (.of_notMem (notMem_ofNat (by decide) before))
  | airRights =>
      have hkind : 'S' ∉ "Finding properties with unused air rights ".toList :=
        Text.of_literal (p := ('S' ∉ ·)) (by decide)
      have hdensity : 'S' ∉ "(allowed density over 1.5 times the built density)".toList :=
        Text.of_literal (p := ('S' ∉ ·)) (by decide)
      exact .of_notMem fun h => (List.mem_append.1 h).elim hkind hdensity
  | unrecognized => exact .of_asideOf (by decide)
  | residential homes =>
      cases homes <;> exact .of_notMem (Text.of_literal (p := ('S' ∉ ·)) (by decide))
  | _ => exact .of_notMem (Text.of_literal (p := ('S' ∉ ·)) (by decide))

theorem Intent.notMem_orderWords {intent : Intent} {words : Text}
    (h : intent.orderWords? = some words) : 'S' ∉ words := by
  cases intent <;> simp only [Intent.orderWords?, reduceCtorEq, Option.some.injEq] at h <;>
    exact h ▸ by decide

/-- A district can begin with the letter of the announcement, but a digit comes next. -/
theorem IsDistrict.aside {d : Text} (h : IsDistrict d) : Aside announcing d := by
  obtain ⟨letter, digit, hyphen, second, rfl, -, hdigit, hhyphen, hsecond⟩ := h
  have hnext : digit ≠ 'h' := ne_of_class hdigit (by decide)
  have hcapital : digit ≠ 'S' := ne_of_class hdigit (by decide)
  have hrest : 'S' ∉ digit :: (hyphen ++ second) := by
    simp only [List.mem_cons, List.mem_append, not_or]
    refine ⟨hcapital.symm, ?_, ?_⟩
    · rcases hhyphen with rfl | rfl <;> decide
    · rcases hsecond with rfl | ⟨c, rfl, hc⟩
      · simp
      · have hc' : c ≠ 'S' := ne_of_class hc (by decide)
        simpa using hc'.symm
  refine ⟨fun rest hprefix => ?_, .of_notMem hrest⟩
  have hopening : "howing up to ".toList = 'h' :: "owing up to ".toList := by decide
  rw [announcing, hopening] at hprefix
  have hsecond_char := (List.cons_prefix_cons.1 hprefix).2
  exact hnext (List.cons_prefix_cons.1 hsecond_char).1.symm

theorem Amount.mem_group {t : Text} {c : Char} (h : c ∈ Amount.group t) : c ∈ t ∨ c = ',' := by
  induction t with
  | nil => exact .inl h
  | cons d t ih =>
      simp only [Amount.group] at h
      split_ifs at h
      · rcases List.mem_cons.1 h with rfl | h
        · exact .inl List.mem_cons_self
        · rcases List.mem_cons.1 h with rfl | h
          · exact .inr rfl
          · exact (ih h).imp_left (List.mem_cons_of_mem d)
      · rcases List.mem_cons.1 h with rfl | h
        · exact .inl List.mem_cons_self
        · exact (ih h).imp_left (List.mem_cons_of_mem d)

theorem Amount.Nonneg.notMem_writeGrouped {a : Amount} (h : a.Nonneg) : 'S' ∉ a.writeGrouped := by
  have hwrite : 'S' ∉ a.write := by
    intro hmem
    rcases Amount.write_of_nonneg h with hnumeral | hinf
    · rcases hnumeral.mem hmem with hdigit | hpoint
      · exact absurd hdigit (by decide)
      · exact absurd hpoint (by decide)
    · rw [hinf] at hmem
      exact absurd hmem (by decide)
  intro hmem
  rcases List.mem_append.1 hmem with hwhole | hfraction
  · rcases Amount.mem_group hwhole with hwhole | hcomma
    · exact hwrite ((List.takeWhile_prefix _).subset hwhole)
    · exact absurd hcomma (by decide)
  · exact hwrite ((List.dropWhile_suffix _).subset hfraction)

namespace Search

/-- The parts of a clause about an amount. -/
theorem aside_amountClause {words unit : Text} {a : Amount} (hwords : 'S' ∉ words) (ha : a.Nonneg)
    (hunit : 'S' ∉ unit) : Aside announcing (words ++ a.writeGrouped ++ unit) := by
  apply Aside.of_notMem
  simp only [List.mem_append, not_or]
  exact ⟨⟨hwords, ha.notMem_writeGrouped⟩, hunit⟩

theorem WellFormed.aside_clauses {s : Search} (h : s.WellFormed) :
    ∀ clause ∈ s.clauses, Aside announcing clause := by
  simp only [clauses, List.forall_mem_append, Option.mem_toList, Option.map_eq_some_iff,
    forall_exists_index, and_imp, forall_apply_eq_imp_iff₂]
  refine ⟨⟨⟨⟨⟨?borough, ?district⟩, ?lotArea⟩, ?assessedValue⟩, ?yearBuilt⟩, ?zone⟩
  case borough =>
    intro b _
    cases b <;> exact .of_asideOf (by decide)
  case district =>
    intro d hd
    have hwords : Aside announcing " zoned ".toList := .of_notMem (by decide)
    exact hwords.append (h.district d hd).aside
  case lotArea =>
    intro t ht
    have hwords : ∀ c : Comparison, 'S' ∉ " with lot area ".toList ++ c.words.toList ++ [' '] := by
      intro c
      cases c <;> decide
    have hunit : 'S' ∉ " square feet".toList := by decide
    have hclause := aside_amountClause (hwords t.comparison) (h.lotArea t ht) hunit
    simpa only [List.append_assoc, List.cons_append, List.nil_append] using hclause
  case assessedValue =>
    intro t ht
    have hwords : ∀ c : Comparison,
        'S' ∉ " with total assessed value ".toList ++ c.words.toList ++ " $".toList := by
      intro c
      cases c <;> decide
    have hclause := aside_amountClause (hwords t.comparison) (h.assessedValue t ht)
      List.not_mem_nil
    rwa [List.append_nil] at hclause
  case yearBuilt =>
    have hwords : ∀ words year, 'S' ∉ words → Aside announcing (words ++ Text.ofNat year) :=
      fun _ year hplain => .of_notMem (by
        rw [List.mem_append, not_or]
        exact ⟨hplain, notMem_ofNat (by decide) year⟩)
    intro bound _
    cases bound with
    | newerThan year => exact hwords _ year (by decide)
    | olderThan year => exact hwords _ year (by decide)
  case zone =>
    split_ifs
    · exact List.forall_mem_singleton.2 (.of_notMem (by decide))
    · simp

theorem aside_keywordSentence {keywords : List Text} (h : ∀ word ∈ keywords, 'S' ∉ word) :
    Aside announcing (keywordSentence keywords) := by
  rw [keywordSentence]
  split_ifs
  · exact .of_notMem (by decide)
  · have hwords : Aside announcing
        " No specific property type was recognized from the keywords: ".toList :=
      .of_notMem (by decide)
    have hcomma : Aside announcing ", ".toList := .of_notMem (by decide)
    have hjoin := hcomma.join fun word hword => .of_notMem (h word hword)
    exact (hwords.append hjoin).append (.of_notMem (by decide))

/-- An explanation without its announcement. -/
def account (s : Search) (keywords : List Text) : Text :=
  s.intent.phrase ++ s.clauses.flatten ++ ['.']
    ++ (match s.intent.orderWords? with
        | some words => " Sorted by ".toList ++ words ++ ['.']
        | none => [])
    ++ (if s.intent = .unrecognized then keywordSentence keywords else [])

theorem WellFormed.aside_account {s : Search} (h : s.WellFormed) {keywords : List Text}
    (hkeywords : ∀ word ∈ keywords, 'S' ∉ word) : Aside announcing (s.account keywords) := by
  have hclauses : Aside announcing s.clauses.flatten := by
    rw [← List.flatMap_id]
    exact .flatMap h.aside_clauses
  have hdot : Aside announcing ['.'] := .of_notMem (by decide)
  apply Aside.append
  · apply ((s.intent.aside_phrase.append hclauses).append hdot).append
    split
    · rename_i words hwords
      have hsorted : Aside announcing " Sorted by ".toList := .of_asideOf (by decide)
      exact (hsorted.append (.of_notMem (Intent.notMem_orderWords hwords))).append hdot
    · trivial
  · split_ifs
    · exact aside_keywordSentence hkeywords
    · trivial

theorem explanation_eq (s : Search) (keywords : List Text) (h : 0 ≤ s.limit) :
    s.explanation keywords = s.account keywords ++
      (if s.limit < Statement.rowCeiling then ' ' :: announcement s.limit.toNat else []) := by
  have hspace : " Showing up to ".toList = ' ' :: "Showing up to ".toList := by decide
  rw [explanation, account, Text.ofInt_of_nonneg h, hspace]
  rfl

end Search

/-! ## The announcement -/

theorem not_isInfix_of_aside {t : Text} (h : Aside announcing t) (k : Nat) :
    ¬ announcement k <:+: t := by
  rintro ⟨before, after, hsplit⟩
  have hprefix : before ++ announcing <+: t ++ [] := by
    rw [List.append_nil, ← hsplit, announcement_eq]
    simp only [List.append_assoc, List.prefix_append_right_inj, List.prefix_append]
  obtain ⟨behind, -, hbehind⟩ := h.exists_append hprefix
  simp at hbehind

/-- The number in the announcement at the end of a text is the only one that is announced. -/
theorem announcement_isInfix_iff {t : Text} (h : Aside announcing t) {k n : Nat} :
    announcement k <:+: t ++ announcement n ↔ k = n := by
  constructor
  · rintro ⟨before, after, hsplit⟩
    have hprefix : before ++ announcing <+: t ++ announcement n := by
      rw [← hsplit, announcement_eq]
      simp only [List.append_assoc, List.prefix_append_right_inj, List.prefix_append]
    obtain ⟨behind, rfl, hbehind⟩ := h.exists_append hprefix
    rw [announcement_eq n] at hbehind hsplit
    cases behind with
    | nil =>
        rw [announcement_eq, List.append_nil, List.append_assoc, List.append_assoc] at hsplit
        have hnumber := List.append_cancel_left (List.append_cancel_left hsplit)
        exact ((Text.ofNat_prefix_iff (by decide)).1 ⟨after, hnumber⟩).1
    | cons c behind =>
        have hlater := (List.cons_prefix_cons.1 hbehind).2
        have hmem : 'S' ∈ "howing up to ".toList ++ (Text.ofNat n ++ ' ' :: "results.".toList) :=
          hlater.subset (by simp)
        rw [List.mem_append, List.mem_append, or_iff_right (by decide),
          or_iff_right (notMem_ofNat (by decide) n)] at hmem
        exact absurd hmem (by decide)
  · rintro rfl
    exact (List.suffix_append t _).isInfix

/-- An explanation announces the number of results that the search is for. -/
theorem Search.WellFormed.announces_explanation_iff {s : Search} (h : s.WellFormed)
    {keywords : List Text} (hkeywords : ∀ word ∈ keywords, 'S' ∉ word) (n : Int) :
    Announces (s.explanation keywords) n ↔ n = s.limit := by
  have hpos := h.one_le_limit
  have hle := h.limit_le
  have haccount := h.aside_account hkeywords
  rw [s.explanation_eq keywords (by omega), Announces]
  split_ifs with hlimit
  · have hspaced : Aside announcing (s.account keywords ++ [' ']) :=
      haccount.append (.of_notMem (by decide))
    have hiff : ∀ k, announcement k <:+: s.account keywords ++ ' ' :: announcement s.limit.toNat ↔
        k = s.limit.toNat := by
      intro k
      rw [← announcement_isInfix_iff hspaced, List.append_assoc, List.singleton_append]
    simp only [hiff]
    constructor
    · rintro (⟨k, rfl, hk⟩ | ⟨-, hnone⟩)
      · omega
      · exact absurd rfl (hnone _)
    · rintro rfl
      exact .inl ⟨s.limit.toNat, (Int.toNat_of_nonneg (by omega)).symm, rfl⟩
  · have hnone := not_isInfix_of_aside haccount
    rw [List.append_nil]
    simp only [hnone, and_false, exists_false, not_false_eq_true, implies_true, and_true, false_or]
    omega

theorem announces_byRules_iff (request : Text) (n : Int) :
    Announces (Understood.byRules request).explanation n ↔ n = (Search.read request).limit := by
  apply (Search.wellFormed_ofRequest request).announces_explanation_iff
  intro word hword hmem
  exact absurd (isKeywordChar_of_mem_keywords hword 'S' hmem) (by decide)

end LotSearch
