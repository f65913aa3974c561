import LotSearch.Proofs.Template.Segment

/-!
# Texts in a resolved template

Every quote opens or closes a quoted region.  Where each placeholder stands behind an even number of
quotes, a text that is put in begins a region and ends one, whatever it holds.  So two resolved
statements whose values differ only in what texts hold are the same outside of quotes, and each
text can be read back from between its quotes.
-/

namespace LotSearch

mutual

/-- The value with every text in it emptied. -/
def Json.withoutTexts : Json → Json
  | .text _ => .text []
  | .list items => .list (Json.withoutTextsItems items)
  | .object fields => .object (Json.withoutTextsFields fields)
  | v => v

def Json.withoutTextsItems : List Json → List Json
  | [] => []
  | v :: items => v.withoutTexts :: Json.withoutTextsItems items

def Json.withoutTextsFields : List (Text × Json) → List (Text × Json)
  | [] => []
  | (name, v) :: fields => (name, v.withoutTexts) :: Json.withoutTextsFields fields

end

theorem bodd_eq_false_iff {n : Nat} : n.bodd = false ↔ Even n := by
  rw [Nat.even_iff, Nat.mod_two_of_bodd]
  cases n.bodd <;> simp

/-! ## Quoted regions -/

/-- The text without its quoted regions; `inside` tells whether it begins in one. -/
def outsideQuotes : Bool → Text → Text
  | _, [] => []
  | inside, c :: t =>
      if c = '\'' then outsideQuotes (!inside) t
      else if inside then outsideQuotes inside t
      else c :: outsideQuotes inside t

/-- Reads each quote that is written twice as one; a quote that stands alone is refused. -/
def undouble? : Text → Option Text
  | [] => some []
  | '\'' :: '\'' :: t => (undouble? t).map ('\'' :: ·)
  | c :: t => if c = '\'' then none else (undouble? t).map (c :: ·)

theorem outsideQuotes_append (inside : Bool) (s t : Text) :
    outsideQuotes inside (s ++ t) =
      outsideQuotes inside s ++ outsideQuotes (inside ^^ (s.count '\'').bodd) t := by
  induction s generalizing inside with
  | nil => simp [outsideQuotes]
  | cons c s ih =>
      by_cases hc : c = '\''
      · simp [outsideQuotes, hc, ih]
      · cases inside <;> simp [outsideQuotes, hc, ih]

/-! ## Literals -/

namespace Piece

theorem doubleQuotes_cons (c : Char) (t : Text) :
    doubleQuotes (c :: t) = (if c = '\'' then ['\'', '\''] else [c]) ++ doubleQuotes t := rfl

theorem undouble?_doubleQuotes (t : Text) : undouble? (doubleQuotes t) = some t := by
  induction t with
  | nil => rfl
  | cons c t ih => by_cases hc : c = '\'' <;> simp [doubleQuotes_cons, hc, undouble?, ih]

theorem bodd_count_doubleQuotes (t : Text) : ((doubleQuotes t).count '\'').bodd = false := by
  induction t with
  | nil => rfl
  | cons c t ih => by_cases hc : c = '\'' <;> simp [doubleQuotes_cons, hc, ih]

theorem outsideQuotes_doubleQuotes (t : Text) : outsideQuotes true (doubleQuotes t) = [] := by
  induction t with
  | nil => rfl
  | cons c t ih => by_cases hc : c = '\'' <;> simp [doubleQuotes_cons, hc, outsideQuotes, ih]

/-- The literal of a text is a quoted region, and no other literal has quotes. -/
theorem of_literal? {v : Json} {t : Text} (h : literal? v = some t) :
    (∃ u, v = .text u ∧ t = '\'' :: (doubleQuotes u ++ ['\''])) ∨
      v.withoutTexts = v ∧ (∀ u, v ≠ .text u) ∧ '\'' ∉ t := by
  match v, h with
  | .null, h =>
      obtain rfl := Option.some.inj h
      exact .inr ⟨rfl, by simp, by decide⟩
  | .bool true, h =>
      obtain rfl := Option.some.inj h
      exact .inr ⟨rfl, by simp, by decide⟩
  | .bool false, h =>
      obtain rfl := Option.some.inj h
      exact .inr ⟨rfl, by simp, by decide⟩
  | .number n, h =>
      obtain rfl := Option.some.inj h
      exact .inr ⟨rfl, by simp, (Json.quiet_writeNumber n).1.quote_notMem⟩
  | .text u, h =>
      obtain rfl := Option.some.inj h
      exact .inl ⟨u, rfl, rfl⟩

theorem bodd_count_literal {v : Json} {t : Text} (h : literal? v = some t) :
    (t.count '\'').bodd = false := by
  rcases of_literal? h with ⟨u, -, rfl⟩ | ⟨-, -, hquote⟩
  · simp [bodd_count_doubleQuotes]
  · rw [List.count_eq_zero_of_not_mem hquote]
    rfl

/-- The literals of values that differ only in what texts hold are the same outside of quotes. -/
theorem outsideQuotes_literal {v v' : Json} {t t' : Text} (h : literal? v = some t)
    (h' : literal? v' = some t') (hsame : v.withoutTexts = v'.withoutTexts) :
    outsideQuotes false t = outsideQuotes false t' := by
  have hquoted : ∀ u, outsideQuotes false ('\'' :: (doubleQuotes u ++ ['\''])) = [] := by
    intro u
    simp [outsideQuotes, outsideQuotes_append, outsideQuotes_doubleQuotes]
  rcases of_literal? h with ⟨u, rfl, rfl⟩ | ⟨hv, hne, -⟩ <;>
    rcases of_literal? h' with ⟨u', rfl, rfl⟩ | ⟨hv', hne', -⟩
  · rw [hquoted, hquoted]
  · exact absurd (hv'.symm.trans hsame.symm) (hne' [])
  · exact absurd (hv.symm.trans hsame) (hne [])
  · obtain rfl : v = v' := hv.symm.trans (hsame.trans hv')
    rw [Option.some.inj (h.symm.trans h')]

end Piece

/-! ## Segments -/

namespace Segment

/-- Every placeholder stands behind an even number of quotes. -/
def SlotsOutsideQuotes (t : Text) : Prop :=
  ∀ before name source after, ofText t = before ++ ⟨.slot name, source⟩ :: after →
    Even ((sources before).count '\'')

/-- Each text that is put in begins and ends a quoted region, and can be read back from it. -/
def QuotesTexts (t : Text) (r : Resolved) : Prop :=
  ∀ before name source after u, ofText t = before ++ ⟨.slot name, source⟩ :: after →
    r.parameters.get? name = some (.text u) →
    ∃ inside, r.sql = rendered r.parameters before ++ ('\'' :: (inside ++ ['\''])) ++
        rendered r.parameters after ∧
      Even ((rendered r.parameters before).count '\'') ∧ undouble? inside = some u

theorem Resolves.exists_literal? {values : Json.Fields} {name source : Text}
    (h : Resolves values ⟨.slot name, source⟩) :
    ∃ v, values.get? name = some v ∧
      Piece.literal? v = some ((Piece.slot name).render values) := by
  obtain ⟨v, hvalue, hliteral⟩ := h
  refine ⟨v, hvalue, ?_⟩
  have hne := hliteral.ne_nil
  simp only [Piece.render, hvalue, Option.bind_some] at hne ⊢
  cases htext : Piece.literal? v with
  | none => simp [htext] at hne
  | some text => rfl

section

variable {t : Text} {values values' : Json.Fields}

/-- What is put in leaves the parity of the quotes as it is in the template. -/
theorem bodd_count_rendered {before after : List Segment} (hsplit : ofText t = before ++ after)
    (hres : ∀ segment ∈ ofText t, segment.Resolves values) :
    ((rendered values before).count '\'').bodd = ((sources before).count '\'').bodd := by
  induction before using List.reverseRecOn generalizing after with
  | nil => rfl
  | append_singleton before segment ih =>
      rw [List.append_assoc] at hsplit
      have hmem : segment ∈ ofText t := hsplit ▸ by simp
      have hlast : ((rendered values [segment]).count '\'').bodd =
          ((sources [segment]).count '\'').bodd := by
        have hcut : segment.WellCut := (ofText_spec t).2 segment hmem
        have hresolves := hres segment hmem
        obtain ⟨piece, source⟩ := segment
        cases piece with
        | char c =>
            obtain rfl : source = [c] := hcut
            rfl
        | slot name =>
            obtain ⟨v, -, hliteral⟩ := hresolves.exists_literal?
            have hsource : source.count '\'' = 0 :=
              List.count_eq_zero_of_not_mem (WellCut.slot hcut).1.quote_notMem
            simp [rendered, sources, Piece.bodd_count_literal hliteral, hsource]
      rw [rendered_append, sources_append, List.count_append, List.count_append, Nat.bodd_add,
        Nat.bodd_add, ih hsplit, hlast]

theorem bodd_count_of_slot {before after : List Segment} {name source : Text}
    (hslots : SlotsOutsideQuotes t) (hsplit : ofText t = before ++ ⟨.slot name, source⟩ :: after) :
    ((sources before).count '\'').bodd = false :=
  bodd_eq_false_iff.2 (hslots before name source after hsplit)

theorem outsideQuotes_rendered {before after : List Segment} (hslots : SlotsOutsideQuotes t)
    (hsplit : ofText t = before ++ after)
    (hres : ∀ segment ∈ ofText t, segment.Resolves values)
    (hres' : ∀ segment ∈ ofText t, segment.Resolves values')
    (hsame : ∀ name, (values.get? name).map Json.withoutTexts =
      (values'.get? name).map Json.withoutTexts) :
    outsideQuotes false (rendered values before) =
      outsideQuotes false (rendered values' before) := by
  -- from the right: the parity before a segment, the same in both runs, tells how it is read
  induction before using List.reverseRecOn generalizing after with
  | nil => rfl
  | append_singleton before segment ih =>
      rw [List.append_assoc] at hsplit
      have hmem : segment ∈ ofText t := hsplit ▸ by simp
      have hlast : outsideQuotes ((sources before).count '\'').bodd (rendered values [segment]) =
          outsideQuotes ((sources before).count '\'').bodd (rendered values' [segment]) := by
        obtain ⟨piece, source⟩ := segment
        cases piece with
        | char c => rfl
        | slot name =>
            obtain ⟨v, hvalue, hliteral⟩ := (hres _ hmem).exists_literal?
            obtain ⟨v', hvalue', hliteral'⟩ := (hres' _ hmem).exists_literal?
            have hv : v.withoutTexts = v'.withoutTexts := by
              simpa [hvalue, hvalue'] using hsame name
            rw [bodd_count_of_slot hslots hsplit]
            simpa [rendered] using Piece.outsideQuotes_literal hliteral hliteral' hv
      rw [rendered_append, rendered_append, outsideQuotes_append, outsideQuotes_append, ih hsplit,
        bodd_count_rendered hsplit hres, bodd_count_rendered hsplit hres', Bool.false_xor, hlast]

end

theorem quotesTexts_of_resolve {t : Template} {supplied : Json.Fields} {r : Resolved}
    (hslots : SlotsOutsideQuotes t.sql) (h : t.resolve supplied = .ok r) :
    QuotesTexts t.sql r := by
  intro before name source after u hsplit hvalue
  obtain ⟨hsql, hres⟩ := Template.of_resolve h
  refine ⟨Piece.doubleQuotes u, ?_, ?_, Piece.undouble?_doubleQuotes u⟩
  · have hliteral : (Piece.slot name).render r.parameters =
        '\'' :: (Piece.doubleQuotes u ++ ['\'']) := by
      simp [Piece.render, hvalue, Piece.literal?]
    have hslot : rendered r.parameters (⟨.slot name, source⟩ :: after) =
        (Piece.slot name).render r.parameters ++ rendered r.parameters after := rfl
    rw [hsql, hsplit, rendered_append, hslot, hliteral, List.append_assoc]
  · rw [← bodd_eq_false_iff, bodd_count_rendered hsplit hres]
    exact bodd_count_of_slot hslots hsplit

end Segment

open Segment

/-- Two resolved statements whose parameters differ only in what texts hold are the same outside of
quotes and end at the same parity of quotes, and each text is read back from between its quotes. -/
theorem Template.resolve_outsideQuotes {t : Template} {supplied supplied' : Json.Fields}
    {r r' : Resolved} (hslots : SlotsOutsideQuotes t.sql) (h : t.resolve supplied = .ok r)
    (h' : t.resolve supplied' = .ok r')
    (hsame : ∀ name, (r.parameters.get? name).map Json.withoutTexts =
      (r'.parameters.get? name).map Json.withoutTexts) :
    outsideQuotes false r.sql = outsideQuotes false r'.sql ∧
      r.sql.count '\'' % 2 = r'.sql.count '\'' % 2 ∧
      QuotesTexts t.sql r ∧ QuotesTexts t.sql r' := by
  obtain ⟨hsql, hres⟩ := Template.of_resolve h
  obtain ⟨hsql', hres'⟩ := Template.of_resolve h'
  have hall : ofText t.sql = ofText t.sql ++ [] := (List.append_nil _).symm
  refine ⟨?_, ?_, quotesTexts_of_resolve hslots h, quotesTexts_of_resolve hslots h'⟩
  · rw [hsql, hsql']
    exact outsideQuotes_rendered hslots hall hres hres' hsame
  · rw [Nat.mod_two_of_bodd, Nat.mod_two_of_bodd, hsql, hsql', bodd_count_rendered hall hres,
      bodd_count_rendered hall hres']

def noteTemplate : Template where
  id := "1".toList
  name := "Lots".toList
  description := none
  category := none
  sql := "SELECT bbl FROM properties WHERE note = 'it''s' AND zone = \x7b\x7bzone\x7d\x7d".toList
  schema := []

theorem slotsOutsideQuotes_note : SlotsOutsideQuotes noteTemplate.sql := by
  intro before name source after hsplit
  have hbehind :
      slotsBehind (fun u => u.count '\'' % 2 == 0) [] (ofText noteTemplate.sql) = true := by cbv
  rw [hsplit] at hbehind
  exact Nat.even_iff.2 (by simpa using of_slotsBehind hbehind)

def quotedNote : Resolved where
  sql :=
    "SELECT bbl FROM properties WHERE note = 'it''s' AND zone = 'R6'' OR ''a'' = ''a'".toList
  parameters := [("zone".toList, .text "R6' OR 'a' = 'a".toList)]

def bracedNote : Resolved where
  sql :=
    "SELECT bbl FROM properties WHERE note = 'it''s' AND zone = '\x7b\x7bzone\x7d\x7d --'".toList
  parameters := [("zone".toList, .text "\x7b\x7bzone\x7d\x7d --".toList)]

theorem get?_zone_withoutTexts (u u' name : Text) :
    (Json.Fields.get? name [("zone".toList, .text u)]).map Json.withoutTexts =
      (Json.Fields.get? name [("zone".toList, .text u')]).map Json.withoutTexts := by
  simp only [Json.Fields.get?]
  split_ifs
  · rfl
  · rfl

/-- Quotes, braces and hyphens of a zone stay between the quotes of its literal. -/
theorem resolve_outsideQuotes_note :
    SlotsOutsideQuotes noteTemplate.sql ∧
      noteTemplate.resolve quotedNote.parameters = .ok quotedNote ∧
      noteTemplate.resolve bracedNote.parameters = .ok bracedNote ∧
      outsideQuotes false quotedNote.sql = outsideQuotes false bracedNote.sql ∧
      quotedNote.sql.count '\'' % 2 = bracedNote.sql.count '\'' % 2 ∧
      QuotesTexts noteTemplate.sql quotedNote ∧ QuotesTexts noteTemplate.sql bracedNote := by
  have hquoted : noteTemplate.resolve quotedNote.parameters = .ok quotedNote := by cbv
  have hbraced : noteTemplate.resolve bracedNote.parameters = .ok bracedNote := by cbv
  exact ⟨slotsOutsideQuotes_note, hquoted, hbraced,
    Template.resolve_outsideQuotes slotsOutsideQuotes_note hquoted hbraced
      (get?_zone_withoutTexts _ _)⟩

end LotSearch
