import LotSearch.Proofs.Number.Grouped
import LotSearch.Proofs.Request.Announcement

/-!
# What an explanation discloses

An explanation is read from left to right: the kind of property, one clause for each bound, and the
point behind the clauses.  How a clause opens tells which bound it is about, and what stands behind
its number or name is a space or that point, so it can be seen where it ends.  Two requests with the
same explanation therefore have the same conditions in the same order, and the statement follows
from these, the kind of property and the announced number of results.
-/

namespace LotSearch

/-! ## Where a part ends -/

/-- What stands behind a part of an explanation: a space, or a point that no digit follows. -/
def Delimits (t : Text) : Prop :=
  t.head? = some ' ' ∨ ∃ r, t = '.' :: r ∧ r.head?.any isAsciiDigit = false

theorem Delimits.head?_any {t : Text} (h : Delimits t) {p : Char → Bool} (hspace : p ' ' = false)
    (hpoint : p '.' = false) : t.head?.any p = false := by
  rcases h with hhead | ⟨r, rfl, -⟩
  · simp [hhead, hspace]
  · simp [hpoint]

theorem Delimits.ne_point {t digits r : Text} (h : Delimits t) (hdigits : Text.IsDigits digits) :
    t ≠ '.' :: (digits ++ r) := by
  rintro rfl
  obtain ⟨hne, hdigits⟩ := hdigits
  obtain ⟨c, digits, rfl⟩ := List.exists_cons_of_ne_nil hne
  rcases h with hhead | ⟨_, heq, hnone⟩
  · cases hhead
  · obtain ⟨-, rfl⟩ := List.cons.inj heq
    simp [hdigits c List.mem_cons_self] at hnone

theorem Text.IsFraction.append_inj {f g s t : Text} (hf : Text.IsFraction f)
    (hg : Text.IsFraction g) (hs : Delimits s) (ht : Delimits t) (h : f ++ s = g ++ t) :
    f = g ∧ s = t := by
  rcases hf with rfl | ⟨digits, rfl, hdigits⟩ <;> rcases hg with rfl | ⟨digits', rfl, hdigits'⟩
  · exact ⟨rfl, h⟩
  · exact absurd h (hs.ne_point hdigits')
  · exact absurd h.symm (ht.ne_point hdigits)
  · obtain ⟨rfl, hrest⟩ := append_inj_of_class hdigits.2 hdigits'.2
      (hs.head?_any (by decide) (by decide)) (ht.head?_any (by decide) (by decide))
      (List.cons.inj h).2
    exact ⟨rfl, hrest⟩

/-! ## Amounts -/

namespace Amount

/-- An amount is digits or a word, then perhaps a fraction. -/
theorem Nonneg.exists_parts {a : Amount} (h : a.Nonneg) : ∃ whole fraction,
    a.write = whole ++ fraction ∧ a.writeGrouped = group whole ++ fraction ∧
      (∀ c ∈ whole, c ≠ ' ' ∧ c ≠ '.' ∧ c ≠ ',') ∧ Text.IsFraction fraction := by
  have hplain : ∀ digits : Text, (∀ c ∈ digits, isAsciiDigit c = true) →
      ∀ c ∈ digits, c ≠ ' ' ∧ c ≠ '.' ∧ c ≠ ',' := fun digits hdigits c hc =>
    ⟨ne_of_class (hdigits c hc) (by decide), ne_of_class (hdigits c hc) (by decide),
      ne_of_class (hdigits c hc) (by decide)⟩
  obtain ⟨whole, fraction, hwrite, hwhole, hfraction⟩ : ∃ whole fraction,
      a.write = whole ++ fraction ∧ (∀ c ∈ whole, c ≠ ' ' ∧ c ≠ '.' ∧ c ≠ ',') ∧
        Text.IsFraction fraction := by
    rcases write_of_nonneg h with hnumeral | hinf
    · obtain ⟨whole, fraction, hdigits, hfraction, hwrite⟩ := hnumeral.exists_whole_fraction
      exact ⟨whole, fraction, hwrite, hplain whole hdigits.2, hfraction⟩
    · exact ⟨"inf".toList, [], by rw [hinf, List.append_nil], forall_mem_of_all (by decide),
        .inl rfl⟩
  have hpoint : '.' ∉ whole := fun hmem => (hwhole '.' hmem).2.1 rfl
  exact ⟨whole, fraction, hwrite, writeGrouped_eq hwrite hpoint hfraction, hwhole, hfraction⟩

/-- The commas of an amount say nothing about it. -/
theorem Nonneg.writeGrouped_append_inj {a b : Amount} (ha : a.Nonneg) (hb : b.Nonneg) {s t : Text}
    (hs : Delimits s) (ht : Delimits t) (h : a.writeGrouped ++ s = b.writeGrouped ++ t) :
    a.write = b.write ∧ s = t := by
  obtain ⟨whole, fraction, hwrite, hgrouped, hwhole, hfraction⟩ := ha.exists_parts
  obtain ⟨whole', fraction', hwrite', hgrouped', hwhole', hfraction'⟩ := hb.exists_parts
  have hclass : ∀ u : Text, (∀ c ∈ u, c ≠ ' ' ∧ c ≠ '.' ∧ c ≠ ',') →
      ∀ c ∈ group u, (c != ' ' && c != '.') = true := by
    intro u hu c hc
    rcases mem_group hc with hmem | rfl
    · simp [hu c hmem]
    · decide
  have hend : ∀ f r : Text, Text.IsFraction f → Delimits r →
      (f ++ r).head?.any (fun c => c != ' ' && c != '.') = false := by
    rintro f r (rfl | ⟨digits, rfl, -⟩) hr
    · exact hr.head?_any (by decide) (by decide)
    · rfl
  have hcommas : ∀ u : Text, (∀ c ∈ u, c ≠ ' ' ∧ c ≠ '.' ∧ c ≠ ',') →
      (group u).filter (· != ',') = u := by
    intro u hu
    rw [filter_group, List.filter_eq_self]
    intro c hc
    simp [hu c hc]
  rw [hgrouped, hgrouped', List.append_assoc, List.append_assoc] at h
  obtain ⟨hgroup, hrest⟩ := append_inj_of_class (hclass whole hwhole) (hclass whole' hwhole')
    (hend _ _ hfraction hs) (hend _ _ hfraction' ht) h
  obtain ⟨hfractions, hrest⟩ := hfraction.append_inj hfraction' hs ht hrest
  have hsame : whole = whole' := by
    rw [← hcommas whole hwhole, hgroup, hcommas whole' hwhole']
  exact ⟨by rw [hwrite, hwrite', hsame, hfractions], hrest⟩

end Amount

theorem Comparison.words_append_inj {c d : Comparison} {s t : Text}
    (h : c.words.toList ++ s = d.words.toList ++ t) : c = d ∧ s = t := by
  have hfree : PrefixFree (fun c : Comparison => c.words.toList)
      [.atLeast, .atMost, .lessThan, .moreThan] := by decide
  have hall : ∀ c : Comparison, c ∈ [atLeast, atMost, lessThan, moreThan] := by
    intro c
    cases c <;> decide
  exact hfree.append_inj (hall c) (hall d) h

theorem Borough.title_append_inj {b b' : Borough} {s t : Text}
    (h : b.title.toList ++ s = b'.title.toList ++ t) : b = b' ∧ s = t := by
  have hfree : PrefixFree (fun b : Borough => b.title.toList) Borough.all := by decide
  have hall : ∀ b : Borough, b ∈ Borough.all := by
    intro b
    cases b <;> decide
  exact hfree.append_inj (hall b) (hall b') h

theorem Text.ofNat_append_inj {m n : Nat} {s t : Text} (hs : Delimits s) (ht : Delimits t)
    (h : Text.ofNat m ++ s = Text.ofNat n ++ t) : m = n ∧ s = t := by
  obtain ⟨hsame, hrest⟩ := append_inj_of_class (fun _ => Text.isAsciiDigit_of_mem_ofNat)
    (fun _ => Text.isAsciiDigit_of_mem_ofNat) (hs.head?_any (by decide) (by decide))
    (ht.head?_any (by decide) (by decide)) h
  exact ⟨Text.ofNat_injective hsame, hrest⟩

/-- A district holds no space and no point. -/
theorem IsDistrict.append_inj {d d' s t : Text} (hd : IsDistrict d) (hd' : IsDistrict d')
    (hs : Delimits s) (ht : Delimits t) (h : d ++ s = d' ++ t) : d = d' ∧ s = t := by
  have hclass : ∀ u : Text, IsDistrict u → ∀ c ∈ u, (c != ' ' && c != '.') = true := by
    rintro u ⟨letter, digit, hyphen, second, rfl, hletter, hdigit, hhyphen, hsecond⟩ c hc
    have hdigits : ∀ e, isDigit e = true → (e != ' ' && e != '.') = true := by
      intro e he
      have hspace : e ≠ ' ' := ne_of_class he (by decide)
      have hpoint : e ≠ '.' := ne_of_class he (by decide)
      simp [hspace, hpoint]
    simp only [List.mem_cons, List.mem_append] at hc
    rcases hc with rfl | rfl | hc | hc
    · have hcapital : ∀ e ∈ [' ', '.'], ¬ ('A' ≤ e ∧ e ≤ 'Z') := forall_mem_of_all (by decide)
      have hother : c ∉ [' ', '.'] := fun hmem => hcapital c hmem hletter
      simpa using hother
    · exact hdigits _ hdigit
    · rcases hhyphen with rfl | rfl
      · cases hc
      · obtain rfl := List.mem_singleton.1 hc
        decide
    · rcases hsecond with rfl | ⟨e, rfl, he⟩
      · cases hc
      · obtain rfl := List.mem_singleton.1 hc
        exact hdigits _ he
  exact append_inj_of_class (hclass d hd) (hclass d' hd') (hs.head?_any (by decide) (by decide))
    (ht.head?_any (by decide) (by decide)) h

/-! ## Clauses -/

/-- What a bound on the lots is about. -/
inductive Aspect where
  | borough
  | district
  | lotArea
  | assessedValue
  | newerThan
  | olderThan
  | opportunityZone
deriving DecidableEq

namespace Aspect

def all : List Aspect :=
  [borough, district, lotArea, assessedValue, newerThan, olderThan, opportunityZone]

/-- The words with which a clause opens. -/
def words : Aspect → Text
  | borough => " in ".toList
  | district => " zoned ".toList
  | lotArea => " with lot area ".toList
  | assessedValue => " with total assessed value ".toList
  | newerThan => " built after ".toList
  | olderThan => " built before ".toList
  | opportunityZone => " inside an Opportunity Zone".toList

theorem mem_all (a : Aspect) : a ∈ all := by
  cases a <;> decide

theorem prefixFree_words : PrefixFree words all := by
  apply PrefixFree.of_pairwise
  dsimp only [all, List.map, words]
  repeat rw [String.toList_ofList]
  decide

theorem head?_words (a : Aspect) : a.words.head? = some ' ' := by
  cases a <;> rfl

end Aspect

/-- A bound on the lots, for which an explanation has a clause and a statement has a condition. -/
inductive Clause where
  | borough (b : Borough)
  | district (d : Text)
  | lotArea (t : Threshold)
  | assessedValue (t : Threshold)
  | newerThan (year : Nat)
  | olderThan (year : Nat)
  | opportunityZone

namespace Clause

def ofYear : YearBound → Clause
  | .newerThan year => newerThan year
  | .olderThan year => olderThan year

def aspect : Clause → Aspect
  | borough _ => .borough
  | district _ => .district
  | lotArea _ => .lotArea
  | assessedValue _ => .assessedValue
  | newerThan _ => .newerThan
  | olderThan _ => .olderThan
  | opportunityZone => .opportunityZone

/-- What a clause says behind the words with which it opens. -/
def content : Clause → Text
  | borough b => b.title.toList
  | district d => d
  | lotArea t =>
      t.comparison.words.toList ++ ' ' :: (t.amount.writeGrouped ++ " square feet".toList)
  | assessedValue t => t.comparison.words.toList ++ ' ' :: '$' :: t.amount.writeGrouped
  | newerThan year => Text.ofNat year
  | olderThan year => Text.ofNat year
  | opportunityZone => []

def text (c : Clause) : Text := c.aspect.words ++ c.content

def condition : Clause → Text
  | borough b => "borough = '".toList ++ b.code.toList ++ ['\'']
  | district d => "zonedist1 LIKE '".toList ++ d ++ "%'".toList
  | lotArea t => t.condition "lotarea"
  | assessedValue t => t.condition "assesstot"
  | newerThan year => (YearBound.newerThan year).condition
  | olderThan year => (YearBound.olderThan year).condition
  | opportunityZone => "is_opportunity_zone = true".toList

def WellFormed : Clause → Prop
  | district d => IsDistrict d
  | lotArea t => t.amount.Nonneg
  | assessedValue t => t.amount.Nonneg
  | _ => True

theorem head?_text (c : Clause) (r : Text) : (c.text ++ r).head? = some ' ' := by
  rw [text, List.append_assoc, List.head?_append, c.aspect.head?_words, Option.some_or]

theorem condition_eq {t u : Threshold} (column : String) (hcomparison : t.comparison = u.comparison)
    (hamount : t.amount.write = u.amount.write) : t.condition column = u.condition column := by
  rw [Threshold.condition, Threshold.condition, hcomparison, hamount]

/-- A clause can be told from every other one, and where it ends. -/
theorem append_inj {c d : Clause} (hc : c.WellFormed) (hd : d.WellFormed) {s t : Text}
    (hs : Delimits s) (ht : Delimits t) (h : c.text ++ s = d.text ++ t) :
    c.condition = d.condition ∧ s = t := by
  rw [text, text, List.append_assoc, List.append_assoc] at h
  obtain ⟨haspect, h⟩ :=
    Aspect.prefixFree_words.append_inj c.aspect.mem_all d.aspect.mem_all h
  cases c with
  | borough b =>
      cases d with
      | borough b' =>
          obtain ⟨rfl, hrest⟩ := Borough.title_append_inj h
          exact ⟨rfl, hrest⟩
      | _ => cases haspect
  | district e =>
      cases d with
      | district e' =>
          obtain ⟨rfl, hrest⟩ := IsDistrict.append_inj hc hd hs ht h
          exact ⟨rfl, hrest⟩
      | _ => cases haspect
  | lotArea u =>
      cases d with
      | lotArea v =>
          simp only [content, List.append_assoc, List.cons_append] at h
          obtain ⟨hcomparison, hamount⟩ := Comparison.words_append_inj h
          have hunit : ∀ r : Text, Delimits (" square feet".toList ++ r) := fun _ => .inl rfl
          obtain ⟨hwrite, hrest⟩ := Amount.Nonneg.writeGrouped_append_inj hc hd (hunit s) (hunit t)
            (List.cons.inj hamount).2
          exact ⟨condition_eq _ hcomparison hwrite, List.append_cancel_left hrest⟩
      | _ => cases haspect
  | assessedValue u =>
      cases d with
      | assessedValue v =>
          simp only [content, List.append_assoc, List.cons_append] at h
          obtain ⟨hcomparison, hamount⟩ := Comparison.words_append_inj h
          obtain ⟨hwrite, hrest⟩ := Amount.Nonneg.writeGrouped_append_inj hc hd hs ht
            (List.cons.inj (List.cons.inj hamount).2).2
          exact ⟨condition_eq _ hcomparison hwrite, hrest⟩
      | _ => cases haspect
  | newerThan year =>
      cases d with
      | newerThan year' =>
          obtain ⟨rfl, hrest⟩ := Text.ofNat_append_inj hs ht h
          exact ⟨rfl, hrest⟩
      | _ => cases haspect
  | olderThan year =>
      cases d with
      | olderThan year' =>
          obtain ⟨rfl, hrest⟩ := Text.ofNat_append_inj hs ht h
          exact ⟨rfl, hrest⟩
      | _ => cases haspect
  | opportunityZone =>
      cases d with
      | opportunityZone => exact ⟨rfl, h⟩
      | _ => cases haspect

theorem delimits_flatMap (cs : List Clause) {closing : Text}
    (h : closing.head?.any isAsciiDigit = false) :
    Delimits (cs.flatMap text ++ '.' :: closing) := by
  cases cs with
  | nil => exact .inr ⟨closing, rfl, h⟩
  | cons c cs =>
      rw [List.flatMap_cons, List.append_assoc]
      exact .inl (c.head?_text _)

/-- The clauses of an explanation tell the conditions of the statement. -/
theorem map_condition_eq {cs ds : List Clause} (hcs : ∀ c ∈ cs, c.WellFormed)
    (hds : ∀ d ∈ ds, d.WellFormed) {closing closing' : Text}
    (hclosing : closing.head?.any isAsciiDigit = false)
    (hclosing' : closing'.head?.any isAsciiDigit = false)
    (h : cs.flatMap text ++ '.' :: closing = ds.flatMap text ++ '.' :: closing') :
    cs.map condition = ds.map condition := by
  induction cs generalizing ds with
  | nil =>
      cases ds with
      | nil => rfl
      | cons d ds =>
          have hhead := congrArg List.head? h
          rw [List.flatMap_cons, List.append_assoc, d.head?_text] at hhead
          cases hhead
  | cons c cs ih =>
      cases ds with
      | nil =>
          have hhead := congrArg List.head? h
          rw [List.flatMap_cons, List.append_assoc, c.head?_text] at hhead
          cases hhead
      | cons d ds =>
          obtain ⟨hc, hcs⟩ := List.forall_mem_cons.1 hcs
          obtain ⟨hd, hds⟩ := List.forall_mem_cons.1 hds
          rw [List.flatMap_cons, List.flatMap_cons, List.append_assoc, List.append_assoc] at h
          obtain ⟨hcondition, hrest⟩ := append_inj hc hd (delimits_flatMap cs hclosing)
            (delimits_flatMap ds hclosing') h
          rw [List.map_cons, List.map_cons, hcondition, ih hcs hds hrest]

end Clause

/-! ## Kinds of property -/

namespace Intent

/-- The kinds of property, whatever the year of a historic one. -/
def kinds : List Intent :=
  [underdeveloped, vacant, commercial, residential .singleFamily, residential .multiFamily,
    residential .any, mixedUse, highLandValue, airRights, historic 0, largeLot, unrecognized]

def kind : Intent → Intent
  | historic _ => historic 0
  | intent => intent

def opening : Intent → Text
  | historic _ => "Finding buildings built before ".toList
  | intent => intent.phrase

def detail : Intent → Text
  | historic before => Text.ofNat before
  | _ => []

theorem kind_mem_kinds (intent : Intent) : intent.kind ∈ kinds := by
  cases intent with
  | residential homes => cases homes <;> decide
  | historic before => exact (by decide : historic 0 ∈ kinds)
  | _ => decide

theorem phrase_eq (intent : Intent) : intent.phrase = intent.kind.opening ++ intent.detail := by
  cases intent with
  | historic before => rfl
  | _ => exact (List.append_nil _).symm

theorem eq_of_kind {i j : Intent} (hkind : i.kind = j.kind) (hdetail : i.detail = j.detail) :
    i = j := by
  cases i with
  | historic before =>
      cases j with
      | historic before' => rw [Text.ofNat_injective hdetail]
      | _ => cases hkind
  | _ =>
      cases j with
      | historic before' => cases hkind
      | _ => exact hkind

theorem prefixFree_opening : PrefixFree opening kinds := by
  apply PrefixFree.of_pairwise
  dsimp only [kinds, List.map, opening, phrase]
  repeat rw [String.toList_ofList]
  decide

theorem phrase_append_inj {i j : Intent} {s t : Text} (hs : Delimits s) (ht : Delimits t)
    (h : i.phrase ++ s = j.phrase ++ t) : i = j ∧ s = t := by
  have hdigits : ∀ (intent : Intent), ∀ c ∈ intent.detail, isAsciiDigit c = true := by
    intro intent c hc
    cases intent with
    | historic before => exact Text.isAsciiDigit_of_mem_ofNat hc
    | _ => cases hc
  rw [phrase_eq, phrase_eq, List.append_assoc, List.append_assoc] at h
  obtain ⟨hkind, h⟩ := prefixFree_opening.append_inj i.kind_mem_kinds j.kind_mem_kinds h
  obtain ⟨hdetail, hrest⟩ := append_inj_of_class (hdigits i) (hdigits j)
    (hs.head?_any (by decide) (by decide)) (ht.head?_any (by decide) (by decide)) h
  exact ⟨eq_of_kind hkind hdetail, hrest⟩

end Intent

/-! ## Explanations -/

namespace Search

/-- The bounds of a search, in the order in which they are explained. -/
def parts (s : Search) : List Clause :=
  s.borough.toList.map .borough ++ s.district.toList.map .district
    ++ s.lotArea.toList.map .lotArea ++ s.assessedValue.toList.map .assessedValue
    ++ s.yearBuilt.toList.map .ofYear
    ++ (if s.opportunityZone then [.opportunityZone] else [])

/-- The sentences of an explanation behind the clauses. -/
def closing (s : Search) (keywords : List Text) : Text :=
  (match s.intent.orderWords? with
    | some words => " Sorted by ".toList ++ words ++ ['.']
    | none => [])
    ++ (if s.intent = .unrecognized then keywordSentence keywords else [])
    ++ (if s.limit < Statement.rowCeiling then
        " Showing up to ".toList ++ Text.ofInt s.limit ++ " results.".toList
      else [])

theorem clauses_eq (s : Search) : s.clauses = s.parts.map Clause.text := by
  have harea : ∀ t : Threshold, " with lot area ".toList ++ t.comparison.words.toList ++
      ' ' :: t.amount.writeGrouped ++ " square feet".toList = (Clause.lotArea t).text := by
    intro t
    simp only [Clause.text, Clause.content, List.append_assoc, List.cons_append]
    rfl
  have hvalue : ∀ t : Threshold, " with total assessed value ".toList ++
      t.comparison.words.toList ++ " $".toList ++ t.amount.writeGrouped =
        (Clause.assessedValue t).text := by
    intro t
    simp only [Clause.text, Clause.content, List.append_assoc]
    rfl
  have hyear : YearBound.clause = Clause.text ∘ Clause.ofYear :=
    funext fun bound => by cases bound <;> rfl
  have hzone : (if s.opportunityZone then [" inside an Opportunity Zone".toList] else []) =
      (if s.opportunityZone then [.opportunityZone] else []).map Clause.text := by
    split_ifs <;> rfl
  simp only [clauses, parts, List.map_append, List.map_map, Option.toList_map, harea, hvalue, hyear,
    hzone]
  rfl

theorem filters_eq (s : Search) : s.filters = s.parts.map Clause.condition := by
  have hyear : YearBound.condition = Clause.condition ∘ Clause.ofYear :=
    funext fun bound => by cases bound <;> rfl
  have hzone : (if s.opportunityZone then ["is_opportunity_zone = true".toList] else []) =
      (if s.opportunityZone then [.opportunityZone] else []).map Clause.condition := by
    split_ifs <;> rfl
  simp only [filters, parts, List.map_append, List.map_map, Option.toList_map, hyear, hzone]
  rfl

theorem explanation_eq_parts (s : Search) (keywords : List Text) :
    s.explanation keywords =
      s.intent.phrase ++ (s.parts.flatMap Clause.text ++ '.' :: s.closing keywords) := by
  have hassoc : ∀ phrase clauses order echo limit : Text,
      phrase ++ clauses ++ ['.'] ++ order ++ echo ++ limit =
        phrase ++ (clauses ++ '.' :: (order ++ echo ++ limit)) := by simp
  rw [List.flatMap_def, ← clauses_eq]
  exact hassoc _ _ _ _ _

theorem WellFormed.parts {s : Search} (h : s.WellFormed) : ∀ c ∈ s.parts, c.WellFormed := by
  simp only [Search.parts, List.forall_mem_append, List.forall_mem_map, Option.mem_toList]
  refine ⟨⟨⟨⟨⟨fun _ _ => trivial, h.district⟩, h.lotArea⟩, h.assessedValue⟩, ?_⟩, ?_⟩
  · intro bound _
    cases bound <;> trivial
  · split_ifs
    · exact List.forall_mem_singleton.2 trivial
    · simp

theorem head?_closing (s : Search) (keywords : List Text) :
    (s.closing keywords).head?.any isAsciiDigit = false := by
  have happend : ∀ {u v : Text}, u.head?.any isAsciiDigit = false →
      v.head?.any isAsciiDigit = false → (u ++ v).head?.any isAsciiDigit = false := by
    intro u v hu hv
    cases u with
    | nil => exact hv
    | cons c u => exact hu
  refine happend (happend ?_ ?_) ?_
  · split <;> rfl
  · split_ifs
    · rw [keywordSentence]
      split_ifs <;> rfl
    · rfl
  · split_ifs <;> rfl

/-- The explanation of a search determines its statement. -/
theorem WellFormed.statement_eq {s s' : Search} (h : s.WellFormed) (h' : s'.WellFormed)
    {keywords keywords' : List Text} (hkeywords : ∀ word ∈ keywords, 'S' ∉ word)
    (hkeywords' : ∀ word ∈ keywords', 'S' ∉ word)
    (heq : s.explanation keywords = s'.explanation keywords') : s.statement = s'.statement := by
  have hlimit : s.limit = s'.limit := by
    apply (h'.announces_explanation_iff hkeywords' s.limit).1
    rw [← heq]
    exact (h.announces_explanation_iff hkeywords s.limit).2 rfl
  rw [explanation_eq_parts, explanation_eq_parts] at heq
  obtain ⟨hintent, hrest⟩ := Intent.phrase_append_inj
    (Clause.delimits_flatMap s.parts (s.head?_closing keywords))
    (Clause.delimits_flatMap s'.parts (s'.head?_closing keywords')) heq
  have hfilters : s.filters = s'.filters := by
    rw [filters_eq, filters_eq]
    exact Clause.map_condition_eq h.parts h'.parts (s.head?_closing _) (s'.head?_closing _) hrest
  rw [statement, statement, unbounded, unbounded, conditions, conditions, hintent, hfilters, hlimit]

end Search

/-- Requests with the same explanation have the same statement, so no condition, order or number of
results goes unsaid. -/
theorem byRules_sql_eq {a b : Text}
    (h : (Understood.byRules a).explanation = (Understood.byRules b).explanation) :
    (Understood.byRules a).sql = (Understood.byRules b).sql := by
  have hkeywords : ∀ t : Text, ∀ word ∈ Vocabulary.keywords (Text.lower t), 'S' ∉ word := by
    intro t word hword hmem
    exact absurd (isKeywordChar_of_mem_keywords hword 'S' hmem) (by decide)
  exact (Search.wellFormed_ofRequest a).statement_eq (Search.wellFormed_ofRequest b)
    (hkeywords a) (hkeywords b) h

theorem byRules_sql_eq_vacant :
    (Understood.byRules "Vacant lots in Kings County under $1.5m, top 20".toList).explanation =
        (Understood.byRules "first 20 unbuilt, below $1,500k, brooklyn".toList).explanation ∧
      (Understood.byRules "Vacant lots in Kings County under $1.5m, top 20".toList).sql =
        (Understood.byRules "first 20 unbuilt, below $1,500k, brooklyn".toList).sql := by
  have hexplanation :
      (Understood.byRules "Vacant lots in Kings County under $1.5m, top 20".toList).explanation =
        (Understood.byRules "first 20 unbuilt, below $1,500k, brooklyn".toList).explanation := by
    decide +kernel
  exact ⟨hexplanation, byRules_sql_eq hexplanation⟩

end LotSearch
