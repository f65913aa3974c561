import LotSearch.Proofs.Request.Reading
import LotSearch.Proofs.Text.Located

/-!
# Phrases with an amount

A bound on the lot area and a bound on the assessed value are found by two patterns that know
nothing of each other.  What each of them finds is taken apart here into the pieces of the text,
the amount between what stands before it and behind it.  Behind an area stands a unit, perhaps with
a multiplier; behind money stands a multiplier or nothing, and a multiplier that could be taken has
been taken.
-/

namespace LotSearch

open Pattern

def areaMultipliers : List String := ["million", "thousand", "k"]

def moneyMultipliers : List String := ["million", "mil", "thousand", "m", "k"]

theorem head?_of_multiplier {word : String} (t : Text) (hword : word ∈ moneyMultipliers) :
    ∃ c, (word.toList ++ t).head? = some c ∧ isAmountChar c = false ∧ isBlank c = false ∧
      c ≠ 's' := by
  have hwords : ∀ word ∈ moneyMultipliers, word.toList.head?.any
      (fun c => !isAmountChar c && !isBlank c && c != 's') = true := by decide
  obtain ⟨c, hc, hplain⟩ := (Option.any_eq_true _ _).1 (hwords word hword)
  refine ⟨c, ?_, by simpa [and_assoc] using hplain⟩
  rw [List.head?_append, hc, Option.some_or]

theorem toList_ne_nil_of_multiplier {word : String} (hword : word ∈ moneyMultipliers) :
    word.toList ≠ [] := by
  have hwords : ∀ word ∈ moneyMultipliers, word.toList ≠ [] := by decide
  exact hwords word hword

/-- An amount between what stands before it and behind it in a text. -/
structure AmountPhrase where
  before : Text
  digits : Text
  behind : Text
  amount_digits : Vocabulary.amount.Spells digits

namespace AmountPhrase

def text (p : AmountPhrase) : Text := p.before ++ (p.digits ++ p.behind)

def span (p : AmountPhrase) : Span := .between p.before p.digits p.behind

end AmountPhrase

/-- Square feet at the beginning of a text: perhaps a multiplier, and a unit that ends a word. -/
structure AreaEnding (t : Text) where
  gap : Text
  multiple : Text
  space : Text
  unit : Text
  rest : Text
  text_eq : t = gap ++ (multiple ++ (space ++ (unit ++ rest)))
  blank_gap : ∀ c ∈ gap, isBlank c = true
  multiple_eq : multiple = [] ∨ ∃ word ∈ areaMultipliers, multiple = word.toList
  blank_space : ∀ c ∈ space, isBlank c = true
  areaUnit_unit : Vocabulary.areaUnit.Spells unit
  boundary_unit : Text.boundary unit.getLast? rest.head? = true

/-- A bound on the lot area: a comparison, an amount and square feet. -/
structure AreaPhrase extends AmountPhrase where
  front : Text
  words : Text
  lead : Text
  before_eq : before = front ++ (words ++ lead)
  comparison_words : Vocabulary.comparison.Spells words
  blanks_lead : blanks.Spells lead
  ending : AreaEnding behind

/-- An amount of money: it has a dollar sign or a multiplier, and no unit of area behind it.  A
multiplier is not passed over. -/
structure MoneyPhrase extends AmountPhrase where
  gap : Text
  multiple : Text
  rest : Text
  behind_eq : behind = gap ++ (multiple ++ rest)
  blank_gap : ∀ c ∈ gap, isBlank c = true
  multiple_eq : multiple = [] ∨ ∃ word ∈ moneyMultipliers, multiple = word.toList ∧
    Text.boundary word.toList.getLast? rest.head? = true
  money : (∃ front space, before = front ++ '$' :: space ∧ space.length ≤ 1) ∨ multiple ≠ []
  no_area : Vocabulary.areaAfterAmount.fitAt none 0 rest = none
  no_multiple : multiple = [] → ∀ (space : Text) (word : String) (rest : Text),
    behind = space ++ (word.toList ++ rest) → (∀ c ∈ space, isBlank c = true) →
      word ∈ moneyMultipliers → Text.boundary word.toList.getLast? rest.head? = false

namespace Vocabulary

theorem areaUnit_cases {u : Text} (h : areaUnit.Spells u) :
    (∃ space : Text, ∃ word ∈ ["feet", "foot", "ft"],
      u = "square".toList ++ (space ++ word.toList) ∧ space ≠ [] ∧
        ∀ c ∈ space, isBlank c = true) ∨
    (∃ point ∈ ["", "."], ∃ space : Text, ∃ word ∈ ["feet", "ft"],
      u = "sq".toList ++ (point.toList ++ (space ++ word.toList)) ∧
        ∀ c ∈ space, isBlank c = true) ∨
    u = "sqft".toList ∨ u = "sf".toList := by
  rcases h with h | h | h | h
  · obtain ⟨_, word, rfl, ⟨_, space, rfl, hsquare, hspace⟩, hword⟩ := h
    obtain rfl := spells_literal.1 hsquare
    obtain ⟨known, hknown, rfl⟩ := (spells_words ["feet", "foot", "ft"]).1 hword
    obtain ⟨hne, hblank⟩ := spells_repeated.1 hspace
    exact .inl ⟨space, known, hknown, List.append_assoc _ _ _, hne, hblank⟩
  · obtain ⟨_, word, rfl, ⟨_, space, rfl, ⟨_, point, rfl, hsq, hpoint⟩, hblank⟩, hword⟩ := h
    obtain rfl := spells_literal.1 hsq
    obtain ⟨known, hknown, rfl⟩ : ∃ known ∈ ["feet", "ft"], word = known.toList := by
      simpa [or_comm] using hword
    obtain ⟨mark, hmark, rfl⟩ : ∃ mark ∈ ["", "."], point = mark.toList := by
      simpa [or_comm] using hpoint
    exact .inr (.inl ⟨mark, hmark, space, known, hknown, by simp only [List.append_assoc], hblank⟩)
  · exact .inr (.inr (.inl (spells_literal.1 h)))
  · exact .inr (.inr (.inr (spells_literal.1 h)))

theorem head?_of_areaUnit {u : Text} (h : areaUnit.Spells u) : u.head? = some 's' := by
  rcases areaUnit_cases h with ⟨_, _, _, rfl, _⟩ | ⟨_, _, _, _, _, rfl, _⟩ | rfl | rfl <;> rfl

theorem areaUnit_ne_nil {u : Text} (h : areaUnit.Spells u) : u ≠ [] := by
  rintro rfl
  cases head?_of_areaUnit h

theorem exists_areaPhrase {t : Text} {fit : Fit} (h : lotSize.find t = some fit) :
    ∃ p : AreaPhrase, p.text = t ∧ p.ending.rest = fit.finish.rest ∧
      fit.group? 2 = some p.span := by
  obtain ⟨front, s, rfl, hs, hgroups, hfit⟩ := fit_of_find h
  obtain ⟨_, hrest, -, hcovers⟩ := covers_of_fit hfit hs hgroups
  obtain ⟨_, _, _, _, rfl, hfound, hcovers, ⟨rfl, hedge⟩, rfl⟩ := hcovers
  obtain ⟨_, unit, _, _, rfl, rfl, hcovers, hunit⟩ := hcovers
  obtain ⟨_, scale, _, later, rfl, rfl, hcovers, hscale⟩ := hcovers
  obtain ⟨_, gap, _, _, rfl, rfl, hcovers, hgap, rfl⟩ := hcovers
  obtain ⟨_, digits, _, _, rfl, rfl, hcovers, inner, hdigits, rfl⟩ := hcovers
  obtain ⟨_, lead, _, _, rfl, rfl, hcovers, hlead⟩ := hcovers
  obtain ⟨_, words, _, _, rfl, rfl, ⟨⟨rfl, -⟩, rfl⟩, _, hwords, rfl⟩ := hcovers
  obtain ⟨-, rfl⟩ := (covers_iff_of_bare (by decide)).1 hunit
  have hboundary : Text.boundary unit.getLast? fit.finish.rest.head? = true := by
    have hlast := List.getLast?_eq_some_getLast (areaUnit_ne_nil hunit.spells)
    simpa [List.getLast?_append, hlast] using hedge
  have hlater : later.lookup 2 = none :=
    hscale.lookup_eq_none (by simp [Captures, anyBlanks])
  obtain ⟨multiple, space, rfl, hmultiple, hspace⟩ : ∃ multiple space, scale = multiple ++ space ∧
      (multiple = [] ∨ ∃ word ∈ areaMultipliers, multiple = word.toList) ∧
        ∀ c ∈ space, isBlank c = true := by
    rcases hscale with ⟨word, space, _, _, rfl, rfl, ⟨_, hword, rfl⟩, hspace, rfl⟩ | ⟨rfl, rfl⟩
    · exact ⟨word, space, rfl, .inr ((spells_words areaMultipliers).1 hword.spells), hspace⟩
    · exact ⟨[], [], rfl, .inl rfl, by simp⟩
  refine ⟨⟨⟨front ++ (words ++ lead), digits, _, hdigits.spells⟩, front, words, lead, rfl,
    hwords.spells, hlead.spells, gap, multiple, space, unit, fit.finish.rest, rfl, hgap, hmultiple,
    hspace, hunit.spells, hboundary⟩, ?_, rfl, ?_⟩
  · simp [AmountPhrase.text, hrest]
  · simp [AmountPhrase.span, Fit.group?, hfound, List.lookup_append, hlater]

def moneyStart : Pattern :=
  optional (edge ++ group 1 comparison ++ blanks) ++ optional (group 2 "$")
    ++ optional (one isBlank) ++ group 3 amount

def moneyMultiple : Pattern :=
  group 4 (anyOf (moneyMultipliers.map fun word => literal word.toList))

/-- What follows the digits of an amount of money. -/
def moneyEnd : Pattern := anyBlanks ++ (optional moneyMultiple ++ edge)

theorem money_fit (s : Place) : money.fit some s = moneyStart.fit (moneyEnd.fit some) s := rfl

/-- Behind the digits of an amount of money, a multiplier is taken if there is one. -/
theorem isSome_lookup_of_moneyEnd {before space rest : Text} {word : String} {s s' : Place}
    (h : moneyEnd.fit some s = some s') (hs : s.Behind before)
    (hrest : s.rest = space ++ (word.toList ++ rest)) (hspace : ∀ c ∈ space, isBlank c = true)
    (hword : word ∈ moneyMultipliers)
    (hboundary : Text.boundary word.toList.getLast? rest.head? = true) :
    (s'.groups.lookup 4).isSome = true := by
  have hne := toList_ne_nil_of_multiplier hword
  -- the blanks in front are passed over only if the place behind them leads on, so that comes first
  have hready : ∀ s : Place, s.Behind (before ++ space) → s.rest = word.toList ++ rest →
      ((moneyMultiple ++ edge).fit some s).isSome = true := by
    intro s hs hrest
    have hwords : (anyOf (moneyMultipliers.map fun word => literal word.toList)).Covers
        (before ++ space) word.toList rest [] :=
      (covers_iff_of_bare (by decide)).2 ⟨(spells_words moneyMultipliers).2 ⟨word, hword, rfl⟩, rfl⟩
    have hcovers : moneyMultiple.Covers (before ++ space) word.toList rest _ := ⟨[], hwords, rfl⟩
    exact (hcovers.append_edge hne hboundary).isSome_fit hs hrest fun _ _ _ => rfl
  have hhead : (word.toList ++ rest).head?.any isBlank = false := by
    obtain ⟨c, hc, -, hblank, -⟩ := head?_of_multiplier rest hword
    simp [hc, hblank]
  have hmultiple : ∀ s : Place, s.Behind (before ++ space) → s.rest = word.toList ++ rest →
      (optional moneyMultiple ++ edge).fit some s = (moneyMultiple ++ edge).fit some s := by
    intro s hs hrest
    exact fit_either_of_isSome (hready s hs hrest)
  obtain ⟨s₁, hs₁, hrest₁, -, heq⟩ : ∃ s₁ : Place, s₁.Behind (before ++ space) ∧
      s₁.rest = word.toList ++ rest ∧ s₁.groups = s.groups ∧
        moneyEnd.fit some s = (optional moneyMultiple ++ edge).fit some s₁ := by
    apply fit_many_of_longest hs hrest hspace hhead
    intro s hs hrest
    exact (hmultiple s hs hrest).symm ▸ hready s hs hrest
  rw [heq, hmultiple s₁ hs₁ hrest₁] at h
  obtain ⟨_, hwalk, hfinish⟩ := walk_of_fit h
  cases hfinish
  obtain ⟨_, _, -, -, hgroups, _, _, _, _, -, rfl, ⟨_, -, rfl⟩, -, rfl⟩ := hwalk.covers hs₁
  rw [hgroups]
  rfl

/-- The digits are remembered under 3; before them may stand a dollar sign, under 2. -/
theorem covers_moneyStart {before u behind : Text} {found : List (Nat × Span)}
    (h : moneyStart.Covers before u behind found) : ∃ front digits earlier, u = front ++ digits ∧
      amount.Spells digits ∧ found = (3, .between (before ++ front) digits behind) :: earlier ∧
      earlier.lookup 4 = none ∧ (earlier.lookup 2 = none ∨
        ∃ front' space, before ++ front = front' ++ '$' :: space ∧ space.length ≤ 1) := by
  obtain ⟨_, digits, _, _, rfl, rfl, hcovers, inner, hdigits, rfl⟩ := h
  obtain ⟨_, space, _, _, rfl, rfl, hcovers, hspace⟩ := hcovers
  obtain ⟨lead, dollar, earlier, sign, rfl, rfl, hlead, hdollar⟩ := hcovers
  obtain ⟨-, rfl⟩ := (covers_iff_of_bare (by decide)).1 hspace
  have hinner : ∀ number, inner.lookup number = none :=
    fun number => hdigits.lookup_eq_none (by simp [amount, Captures])
  have hearlier : ∀ number, 1 ≠ number → earlier.lookup number = none :=
    fun number hne => hlead.lookup_eq_none (by simp [comparison, blanks, Captures, hne])
  have hsign : sign.lookup 4 = none := hdollar.lookup_eq_none (by simp [Captures])
  refine ⟨lead ++ dollar ++ space, digits, inner ++ (sign ++ earlier), rfl, hdigits.spells, rfl,
    ?_, ?_⟩
  · rw [List.lookup_append, List.lookup_append, hinner, hsign, hearlier 4 (by decide)]
    rfl
  · rcases hdollar with ⟨_, hdollar, rfl⟩ | ⟨rfl, rfl⟩
    · right
      obtain rfl := spells_literal.1 hdollar.spells
      refine ⟨before ++ lead, space, by simp, ?_⟩
      rcases hspace.spells with ⟨c, rfl, -⟩ | rfl
      · exact le_rfl
      · exact Nat.zero_le 1
    · left
      rw [List.nil_append, List.lookup_append, hinner, hearlier 2 (by decide)]
      rfl

theorem covers_moneyEnd {before u behind : Text} {found : List (Nat × Span)}
    (h : moneyEnd.Covers before u behind found) : ∃ gap multiple, u = gap ++ multiple ∧
      (∀ c ∈ gap, isBlank c = true) ∧ found.lookup 3 = none ∧ (multiple = [] ∧ found = [] ∨
        ∃ word ∈ moneyMultipliers, multiple = word.toList ∧
          Text.boundary word.toList.getLast? behind.head? = true) := by
  obtain ⟨gap, _, _, _, rfl, rfl, ⟨hgap, rfl⟩, hcovers⟩ := h
  obtain ⟨multiple, _, later, _, rfl, rfl, hmultiple, ⟨rfl, hedge⟩, rfl⟩ := hcovers
  rw [List.append_nil, List.append_nil, List.nil_append]
  refine ⟨gap, multiple, rfl, hgap,
    hmultiple.lookup_eq_none (by simp [moneyMultiple, Captures]), ?_⟩
  rcases hmultiple with ⟨_, hword, -⟩ | ⟨rfl, rfl⟩
  · right
    obtain ⟨word, hmem, rfl⟩ := (spells_words moneyMultipliers).1 hword.spells
    refine ⟨word, hmem, rfl, ?_⟩
    rwa [List.getLast?_append_of_ne_nil _ (toList_ne_nil_of_multiplier hmem)] at hedge
  · exact .inl ⟨rfl, rfl⟩

theorem exists_moneyPhrase {t : Text} {fit : Fit} (h : fit ∈ money.findAll t)
    (hmoney : Search.isMoney fit = true) :
    ∃ p : MoneyPhrase, p.text = t ∧ p.rest = fit.finish.rest ∧ fit.group? 3 = some p.span := by
  obtain ⟨before, s, rfl, hs, hnil, hfit⟩ := fit_of_mem_findAll h
  rw [money_fit] at hfit
  obtain ⟨s₁, hstart, hend⟩ := walk_of_fit hfit
  obtain ⟨_, _, hrest, hs₁, hbegun, hcovers⟩ := hstart.covers hs
  obtain ⟨front, digits, earlier, rfl, hdigits, rfl, hfour, hdollar⟩ := covers_moneyStart hcovers
  obtain ⟨_, hwalk, hfinish⟩ := walk_of_fit hend
  cases hfinish
  obtain ⟨_, later, hrest₁, -, hended, hcovers⟩ := hwalk.covers hs₁
  obtain ⟨gap, multiple, rfl, hgap, hthree, hmultiple⟩ := covers_moneyEnd hcovers
  rw [hnil, List.append_nil] at hbegun
  rw [hbegun, hrest₁] at hended
  rw [Search.isMoney, Bool.and_eq_true, Option.isNone_iff_eq_none] at hmoney
  obtain ⟨hmark, harea⟩ := hmoney
  -- without a multiplier, the groups 2 and 4 are those before the digits
  have hgroup : multiple = [] → fit.group? 2 = earlier.lookup 2 ∧ fit.group? 4 = none := by
    intro hnone
    obtain ⟨-, rfl⟩ := hmultiple.resolve_right fun ⟨word, hword, heq, _⟩ =>
      toList_ne_nil_of_multiplier hword (heq.symm.trans hnone)
    simp only [Fit.group?, hended, List.nil_append]
    exact ⟨rfl, hfour⟩
  refine ⟨⟨⟨before ++ front, digits, gap ++ (multiple ++ fit.finish.rest), hdigits⟩, gap, multiple,
    fit.finish.rest, rfl, hgap, hmultiple.imp_left And.left, ?sign, harea, ?first⟩, ?text, rfl,
    ?span⟩
  case sign =>
    refine hdollar.symm.imp_right fun htwo hnone => ?_
    rw [(hgroup hnone).1, (hgroup hnone).2, htwo] at hmark
    cases hmark
  case first =>
    intro hnone space word rest heq hblank hword
    by_contra hready
    have htaken : (fit.group? 4).isSome = true :=
      isSome_lookup_of_moneyEnd hend hs₁ (by simpa [hrest₁] using heq) hblank hword
        (by simpa using hready)
    rw [(hgroup hnone).2] at htaken
    cases htaken
  case text => simp [AmountPhrase.text, hrest, hrest₁]
  case span =>
    rw [Fit.group?, hended, List.lookup_append, hthree]
    simp [AmountPhrase.span]

end Vocabulary

end LotSearch
