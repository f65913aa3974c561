import LotSearch.Proofs.Request.Disclosure
import LotSearch.Proofs.Text.Located

/-!
# Letter case in requests

A request is read in its lower-case form, except that the code of a borough counts only where it is
written in capitals.  Requests with the same lower-case form therefore get the same answer up to the
borough.  The code is looked for only when no name of a borough was found, and every name that can
be found belongs to a borough, so a request that holds a name is answered without its capitals.
-/

namespace LotSearch

/-! ## The text of a fit -/

namespace Pattern

variable {p : Pattern} {t : Text} {f : Fit}

theorem spells_of_findFrom {previous : Option Char} {position : Nat}
    (h : p.findFrom previous position t = some f) : position ≤ f.start ∧
      p.Spells ((t.drop (f.start - position)).take (f.finish.position - f.start)) := by
  have hat : ∀ {previous position t}, p.fitAt previous position t = some f →
      f.start = position ∧ p.Spells (t.take (f.finish.position - position)) := by
    intro previous position t h
    obtain ⟨finish, hfit, rfl⟩ := Option.map_eq_some_iff.1 h
    obtain ⟨_, hwalk, hfinish⟩ := walk_of_fit hfit
    cases hfinish
    obtain ⟨u, hrest, hposition, hspells⟩ := hwalk.spells
    refine ⟨rfl, ?_⟩
    change t = u ++ finish.rest at hrest
    rw [hposition, Nat.add_sub_cancel_left, hrest, List.take_left]
    exact hspells
  induction t generalizing previous position with
  | nil =>
      obtain ⟨rfl, hspells⟩ := hat h
      exact ⟨le_refl _, by simpa using hspells⟩
  | cons c t ih =>
      simp only [findFrom] at h
      split at h
      · rename_i found hfound
        cases h
        obtain ⟨rfl, hspells⟩ := hat hfound
        exact ⟨le_refl _, by simpa using hspells⟩
      · obtain ⟨hle, hspells⟩ := ih h
        have hdrop : f.start - position = f.start - (position + 1) + 1 := by omega
        rw [hdrop, List.drop_succ_cons]
        exact ⟨by omega, hspells⟩

theorem spells_of_find (h : p.find t = some f) :
    p.Spells ((t.drop f.start).take (f.finish.position - f.start)) :=
  (spells_of_findFrom h).2

theorem spells_wholeWords : (wholeWords p).Spells t ↔ p.Spells t := by
  constructor
  · rintro ⟨_, _, rfl, ⟨_, u, rfl, rfl, hu⟩, rfl⟩
    simpa using hu
  · intro h
    exact ⟨t, [], by simp, ⟨[], t, rfl, rfl, h⟩, rfl⟩

end Pattern

/-! ## Names of boroughs -/

theorem Borough.named?_synonym {b : Borough} {word : String} (h : word ∈ b.synonyms) :
    named? word.toList = some b := by
  have hall : ∀ b ∈ all, ∀ word ∈ b.synonyms, named? word.toList = some b := by decide
  exact hall b (by cases b <;> decide) word h

/-- The names that are looked for are the synonyms of the boroughs. -/
theorem Vocabulary.spells_boroughName {t : Text} :
    boroughName.Spells t ↔ ∃ b : Borough, ∃ word ∈ b.synonyms, t = word.toList := by
  have hwords : boroughName = Pattern.wholeWords (Pattern.anyOf
      ((Borough.all.flatMap Borough.synonyms).map fun word => Pattern.literal word.toList)) := rfl
  have hall : ∀ b, b ∈ Borough.all := fun b => by cases b <;> decide
  rw [hwords, Pattern.spells_wholeWords, Pattern.spells_words]
  constructor
  · rintro ⟨word, hword, rfl⟩
    obtain ⟨b, -, hmem⟩ := List.mem_flatMap.1 hword
    exact ⟨b, word, hmem, rfl⟩
  · rintro ⟨b, word, hmem, rfl⟩
    exact ⟨word, List.mem_flatMap.2 ⟨b, hall b, hmem⟩, rfl⟩

namespace Search

/-- The borough that the leftmost fit of a pattern names. -/
def namedBy (p : Pattern) (t : Text) : Option Borough :=
  (p.find t).bind fun f => Borough.named? ((t.drop f.start).take (f.finish.position - f.start))

theorem boroughOf_eq (request lower : Text) : boroughOf request lower =
    (namedBy Vocabulary.boroughName lower).or (namedBy Vocabulary.boroughCode request) := by
  unfold boroughOf namedBy
  dsimp only
  split <;> simp [*]

theorem exists_namedBy_boroughName {lower : Text}
    (h : Vocabulary.boroughName.occursIn lower = true) :
    ∃ b, namedBy Vocabulary.boroughName lower = some b := by
  obtain ⟨f, hf⟩ := Option.isSome_iff_exists.1 h
  obtain ⟨b, word, hword, hspelled⟩ :=
    Vocabulary.spells_boroughName.1 (Pattern.spells_of_find hf)
  refine ⟨b, ?_⟩
  rw [namedBy, hf, Option.bind_some, hspelled]
  exact Borough.named?_synonym hword

theorem namedBy_eq_none {p : Pattern} {t : Text} (h : p.occursIn t = false) :
    namedBy p t = none := by
  have hfind : p.find t = none := by simpa [Pattern.occursIn] using h
  rw [namedBy, hfind, Option.bind_none]

theorem boroughOf_eq_iff (a b lower : Text) : boroughOf a lower = boroughOf b lower ↔
    Vocabulary.boroughName.occursIn lower = true ∨
      namedBy Vocabulary.boroughCode a = namedBy Vocabulary.boroughCode b := by
  rw [boroughOf_eq, boroughOf_eq]
  cases hname : Vocabulary.boroughName.occursIn lower with
  | true =>
      obtain ⟨borough, hnamed⟩ := exists_namedBy_boroughName hname
      simp [hnamed]
  | false => simp [namedBy_eq_none hname]

end Search

/-! ## Answers up to the borough -/

/-- An answer with a place for a borough: the conditions around the place and what stands behind
the conditions, and the explanation before and behind the place. -/
structure BoroughFrame where
  kind : Option Text
  others : List Text
  ending : Text
  opening : Text
  closing : Text

namespace BoroughFrame

/-- The answer with a borough in the place, or with nothing there. -/
def fill (frame : BoroughFrame) (borough : Option Borough) : Understood where
  sql := Lots.baseSelect ++ whereClause (frame.kind.toList ++
    ((borough.map fun b => (Clause.borough b).condition).toList ++ frame.others)) ++ frame.ending
  explanation := frame.opening ++
    ((borough.map fun b => (Clause.borough b).text).getD [] ++ frame.closing)
  source := .rules

theorem fill_injective (frame : BoroughFrame) : Function.Injective frame.fill := by
  intro borough borough' h
  have hclause := List.append_cancel_right
    (List.append_cancel_left (congrArg Understood.explanation h))
  -- no two boroughs have the same clause, and none of the clauses is empty
  have hall : ∀ b ∈ none :: Borough.all.map some, ∀ b' ∈ none :: Borough.all.map some,
      (b.map fun b => (Clause.borough b).text).getD [] =
        (b'.map fun b => (Clause.borough b).text).getD [] → b = b' := by decide
  have hmem : ∀ b : Option Borough, b ∈ none :: Borough.all.map some := by
    intro b
    cases b with
    | none => exact List.mem_cons_self
    | some b => cases b <;> decide
  exact hall borough (hmem borough) borough' (hmem borough') hclause

end BoroughFrame

/-- Whether two answers are the same except for the condition that names a borough and its clause in
the explanation, which either of them may lack. -/
def AgreeUpToBorough (u v : Understood) : Prop :=
  ∃ (frame : BoroughFrame) (borough borough' : Option Borough),
    u = frame.fill borough ∧ v = frame.fill borough'

namespace Search

def frame (s : Search) (keywords : List Text) : BoroughFrame where
  kind := s.intent.condition?
  others := { s with borough := none }.filters
  ending := orderClause s.intent ++ (" LIMIT ".toList ++ Text.ofInt s.limit)
  opening := s.intent.phrase
  closing := { s with borough := none }.parts.flatMap Clause.text ++ '.' :: s.closing keywords

theorem filters_eq_cons (s : Search) : s.filters =
    (s.borough.map fun b => (Clause.borough b).condition).toList ++
      { s with borough := none }.filters := by
  simp only [filters, Option.map_none, Option.toList_none, List.nil_append, List.append_assoc]
  rfl

theorem flatMap_parts (s : Search) : s.parts.flatMap Clause.text =
    (s.borough.map fun b => (Clause.borough b).text).getD [] ++
      { s with borough := none }.parts.flatMap Clause.text := by
  have hborough : (s.borough.toList.map Clause.borough).flatMap Clause.text =
      (s.borough.map fun b => (Clause.borough b).text).getD [] := by
    cases s.borough <;> simp
  rw [← hborough, ← List.flatMap_append]
  simp [parts]

theorem fill_frame (s : Search) (keywords : List Text) :
    (s.frame keywords).fill s.borough = ⟨s.statement, s.explanation keywords, .rules⟩ := by
  have hsql : s.statement = ((s.frame keywords).fill s.borough).sql := by
    rw [statement, unbounded_eq, conditions, filters_eq_cons]
    simp only [BoroughFrame.fill, frame, List.append_assoc]
  have hexplanation :
      s.explanation keywords = ((s.frame keywords).fill s.borough).explanation := by
    rw [explanation_eq_parts, flatMap_parts]
    simp only [BoroughFrame.fill, frame, List.append_assoc]
  rw [hsql, hexplanation]
  rfl

end Search

/-- What surrounds the borough is read from the lower-case form alone. -/
theorem byRules_eq_fill (request : Text) : Understood.byRules request =
    ((Search.ofRequest [] (Text.lower request)).frame
      (Vocabulary.keywords (Text.lower request))).fill
        (Search.boroughOf request (Text.lower request)) :=
  ((Search.ofRequest request (Text.lower request)).fill_frame _).symm

/-- Requests with the same lower-case form are answered alike except for the borough.  The answers
are the same if the lower-case form holds a name of a borough, and else if the same code, or none,
stands first in both requests. -/
theorem byRules_of_lower_eq {a b : Text} (h : Text.lower a = Text.lower b) :
    AgreeUpToBorough (Understood.byRules a) (Understood.byRules b) ∧
      (Understood.byRules a = Understood.byRules b ↔
        Vocabulary.boroughName.occursIn (Text.lower a) = true ∨
          Search.namedBy Vocabulary.boroughCode a = Search.namedBy Vocabulary.boroughCode b) := by
  have ha := byRules_eq_fill a
  have hb := byRules_eq_fill b
  rw [← h] at hb
  refine ⟨⟨_, _, _, ha, hb⟩, ?_⟩
  rw [ha, hb, (BoroughFrame.fill_injective _).eq_iff]
  exact Search.boroughOf_eq_iff a b (Text.lower a)

theorem byRules_of_lower_eq_brooklyn :
    Text.lower "Vacant lots in BROO\u212ALYN or BX".toList =
        Text.lower "vacant LOTS in Brooklyn or bx".toList ∧
      Understood.byRules "Vacant lots in BROO\u212ALYN or BX".toList =
        Understood.byRules "vacant LOTS in Brooklyn or bx".toList := by
  have hlower : Text.lower "Vacant lots in BROO\u212ALYN or BX".toList =
      Text.lower "vacant LOTS in Brooklyn or bx".toList := by decide +kernel
  exact ⟨hlower, (byRules_of_lower_eq hlower).2.2 (.inl (by decide +kernel))⟩

/-- Without a name, a code in small letters is passed over. -/
example : Search.boroughOf "lots in BX".toList "lots in bx".toList = some .bronx ∧
    Search.boroughOf "lots in bx".toList "lots in bx".toList = none := by
  decide +kernel

end LotSearch
