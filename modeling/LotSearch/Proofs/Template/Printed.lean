import LotSearch.Proofs.Number.Readback
import LotSearch.Proofs.Template.Replayed

/-!
# Numbers supplied as texts

A declared number can be supplied as a number or as a text that is read as one.  When the text is
what is printed for the number, both settle the parameter alike, the other parameters do not see the
difference, and so the statement and the settled parameters are the same.  Only an integer that
needs 64 bits without a sign is lost on the way: its text is read as a floating-point value.
-/

namespace LotSearch

/-! ## Setting a field that is present -/

namespace Json.Fields

variable {name other : Text} {a b : Json} {fields : Fields}

theorem replace_replace (name : Text) (a b : Json) (fields : Fields) :
    (fields.replace name a).replace name b = fields.replace name b := by
  induction fields with
  | nil => rfl
  | cons field fields ih =>
      obtain ⟨n, v⟩ := field
      by_cases hn : n = name
      · simp [replace, hn]
      · simp [replace, hn, ih]

theorem replace_comm (hne : other ≠ name) (a b : Json) (fields : Fields) :
    (fields.replace name a).replace other b = (fields.replace other b).replace name a := by
  induction fields with
  | nil => rfl
  | cons field fields ih =>
      obtain ⟨n, v⟩ := field
      by_cases hn : n = name
      · simp [replace, hn, hne.symm]
      · by_cases ho : n = other
        · simp [replace, ho, hne]
        · simp [replace, hn, ho, ih]

theorem place_replace (hne : other ≠ name) (a b : Json) (fields : Fields) :
    (fields.replace name a).place other b = (fields.place other b).replace name a := by
  induction fields with
  | nil => simp [replace, place, hne]
  | cons field fields ih =>
      obtain ⟨n, v⟩ := field
      by_cases hn : n = name
      · by_cases hp : Text.precedes other n <;> simp_all [replace, place]
      · by_cases hp : Text.precedes other n <;> simp [replace, place, hn, hne, hp, ih]

theorem insert_of_isSome (h : (fields.get? name).isSome) (a : Json) :
    fields.insert name a = fields.replace name a := if_pos h

theorem insert_insert_self (h : (fields.get? name).isSome) (a b : Json) :
    (fields.insert name a).insert name b = fields.insert name b := by
  rw [insert_of_isSome h, insert_of_isSome h, insert_of_isSome (by simp [get?_replace, h]),
    replace_replace]

/-- A value under a name that is present keeps its place when another name is set. -/
theorem insert_insert_comm (h : (fields.get? name).isSome) (hne : other ≠ name) (a b : Json) :
    (fields.insert name a).insert other b = (fields.insert other b).insert name a := by
  have hname : ((fields.insert other b).get? name).isSome := by
    rwa [get?_insert, if_neg hne.symm]
  have hother : (fields.replace name a).get? other = fields.get? other := by
    rw [get?_replace, if_neg fun hand => hne hand.1]
  rw [insert_of_isSome hname, insert_of_isSome h, insert, insert, hother]
  split_ifs
  · exact replace_comm hne a b fields
  · exact place_replace hne a b fields

end Json.Fields

/-! ## One parameter -/

namespace Parameter

variable {p : Parameter} {n : JsonNumber}

theorem settle_number_ne_none (p : Parameter) (name : Text) (n : JsonNumber) :
    p.settle name (some (.number n)) ≠ .ok none := by
  intro h
  cases (settle_eq_ok_iff.1 h).1 with
  | unset hu _ _ => cases hu

theorem takes_number_iff (htype : p.type = .number) {o : Option Json} :
    p.Takes (some (.number n)) o ↔ o = some (.number n) := by
  constructor
  · intro h
    cases h with
    | given hu hv =>
        obtain rfl := Option.some.inj hu
        rw [htype] at hv
        exact hv.symm
    | byDefault hu _ => cases hu
    | unset hu _ _ => cases hu
  · rintro rfl
    exact .given rfl (by rw [htype, coerce?])

theorem takes_text_iff (htype : p.type = .number) {t : Text} {o : Option Json} :
    p.Takes (some (.text t)) o ↔
      ∃ n, readNumber? (Text.trim t) = some n ∧ o = some (.number n) := by
  constructor
  · intro h
    cases h with
    | given hu hv =>
        obtain rfl := Option.some.inj hu
        rw [htype] at hv
        obtain ⟨n, hn, rfl⟩ := Option.map_eq_some_iff.1 hv
        exact ⟨n, hn, rfl⟩
    | byDefault hu _ => cases hu
    | unset hu _ _ => cases hu
  · rintro ⟨n, hn, rfl⟩
    refine .given rfl ?_
    rw [htype, coerce?, hn, Option.map_some]

theorem settle_writeNumber (htype : p.type = .number) (hn : n.Representable) (hfits : n.FitsSigned)
    (name : Text) :
    p.settle name (some (.text (Json.writeNumber n))) = p.settle name (some (.number n)) := by
  have hread := (readNumber?_writeNumber_iff hn).2 hfits
  have htext := (unchecked_eq_ok_iff name).2 ((takes_text_iff htype).2 ⟨n, hread, rfl⟩)
  have hnumber : p.unchecked name (some (.number n)) = .ok (some (.number n)) :=
    (unchecked_eq_ok_iff name).2 ((takes_number_iff htype).2 rfl)
  rw [settle_eq, settle_eq, htext, hnumber]

end Parameter

/-! ## A whole schema -/

namespace Schema

open Parameter Json

variable {schema : Schema} {supplied values : Fields} {name : Text} {p : Parameter}

/-- A supplied value may be changed when its parameter is settled by the same value as before. -/
theorem validate_insert {v : Json} (hdistinct : schema.Distinct) (hmem : (name, p) ∈ schema)
    (hpresent : (supplied.get? name).isSome)
    (hsettle : p.settle name (some v) = p.settle name (supplied.get? name))
    (hset : p.settle name (some v) ≠ .ok none) :
    schema.validate (supplied.insert name v) = schema.validate supplied := by
  induction schema generalizing supplied with
  | nil => cases hmem
  | cons entry schema ih =>
      obtain ⟨other, q⟩ := entry
      obtain ⟨hfresh, hrest⟩ := List.nodup_cons.1 hdistinct
      rcases List.mem_cons.1 hmem with heq | hlater
      · -- what settles the parameter is written over the supplied value
        cases heq
        rw [validate, validate, Fields.get?_insert_self, ← hsettle]
        split
        · rfl
        · next hnone => exact absurd hnone hset
        · rw [Fields.insert_insert_self hpresent]
      · have hne : other ≠ name := by
          rintro rfl
          exact hfresh (List.mem_map.2 ⟨_, hlater, rfl⟩)
        rw [validate, validate, Fields.get?_insert, if_neg hne]
        split
        · rfl
        · exact ih hrest hlater hpresent hsettle
        · next w _ =>
          have hget : (supplied.insert other w).get? name = supplied.get? name := by
            rw [Fields.get?_insert, if_neg hne.symm]
          rw [Fields.insert_insert_comm hpresent hne]
          exact ih hrest hlater (hget ▸ hpresent) (hget ▸ hsettle)

theorem get?_validate_number {n : JsonNumber} (hdistinct : schema.Distinct)
    (h : schema.validate supplied = .ok values) (hmem : (name, p) ∈ schema)
    (htype : p.type = .number) (hsupplied : supplied.get? name = some (.number n)) :
    values.get? name = some (.number n) := by
  obtain ⟨o, htakes, -, hget⟩ := takes_of_validate hdistinct h hmem
  rw [hsupplied] at htakes
  rw [hget, (takes_number_iff htype).1 htakes, Option.some_or]

end Schema

/-! ## Templates -/

/-- A substitution that succeeds puts each literal in the place of its placeholder. -/
theorem eq_flatMap_of_substitute {template out : Text} {values : Json.Fields}
    (h : substitute template values = .ok out) :
    out = (Piece.ofText template).flatMap (Piece.render values) := by
  simp only [substitute] at h
  split at h
  · cases h
  · split at h
    · exact (Except.ok.inj h).symm
    · cases h

/-- A template that ends in its only placeholder. -/
theorem substitute_of_front {template front name literal : Text} {v : Json}
    (hpieces : Piece.ofText template = front.map .char ++ [.slot name])
    (hv : Piece.literal? v = some literal) :
    substitute template [(name, v)] = .ok (front ++ literal) := by
  have hscalar : (front.map Piece.char ++ [Piece.slot name]).findSome?
      (Piece.nonScalar? [(name, v)]) = none := by
    simp [List.findSome?_eq_none_iff, Piece.nonScalar?, Piece.slotName?, Json.Fields.get?, hv]
  have hvalued : (front.map Piece.char ++ [Piece.slot name]).filterMap
      (Piece.unvalued? [(name, v)]) = [] := by
    simp [Piece.unvalued?, Piece.slotName?, Json.Fields.get?]
  have hrender : (front.map Piece.char ++ [Piece.slot name]).flatMap (Piece.render [(name, v)]) =
      front ++ literal := by
    simp [List.flatMap_map, Piece.render, Json.Fields.get?, hv]
  rw [substitute, hpieces]
  simp only [hscalar, hvalued, hrender, Text.distinct]
  rfl

namespace Template

open Parameter

variable {t : Template} {supplied : Json.Fields} {name : Text} {p : Parameter} {n : JsonNumber}

/-- The statement for large lots, with the text of the least area in it. -/
def largeLotsSql (area : Text) : Text := "SELECT bbl FROM properties WHERE lotarea > ".toList ++ area

theorem pieces_largeLots : Piece.ofText largeLots.sql =
    "SELECT bbl FROM properties WHERE lotarea > ".toList.map .char ++
      [.slot "min_area".toList] := by
  cbv

/-- The area as it is declared, when only it is supplied. -/
theorem resolve_largeLots {v w : Json} {literal : Text}
    (hv : Takes ⟨.number, false, none, some (.number (.whole 2500)), none⟩ (some v) (some w))
    (hw : Piece.literal? w = some literal) :
    largeLots.resolve [("min_area".toList, v)] =
      .ok ⟨largeLotsSql literal, [("min_area".toList, w)]⟩ := by
  have hsettle : settle ⟨.number, false, none, some (.number (.whole 2500)), none⟩
      "min_area".toList (some v) = .ok (some w) := settle_eq_ok_iff.2 ⟨hv, by simp [Allows]⟩
  refine resolve_eq_ok_iff.2 ⟨?_, ?_⟩
  · simp only [largeLots, Schema.validate, Json.Fields.get?, if_true, hsettle]
    rfl
  · exact substitute_of_front pieces_largeLots hw

/-- A declared number stands in the statement as it is printed.  The text that is printed for it
settles the parameters alike and comes to the same statement, or is refused alike.  An integer that
needs 64 bits without a sign is the exception: where the number resolves, its text does not come to
the same. -/
theorem resolve_writeNumber_iff (hdistinct : t.schema.Distinct) (hmem : (name, p) ∈ t.schema)
    (htype : p.type = .number) (hn : n.Representable)
    (hsupplied : supplied.get? name = some (.number n)) :
    (n.FitsSigned → t.resolve (supplied.insert name (.text (Json.writeNumber n))) =
      t.resolve supplied) ∧
    ∀ r, t.resolve supplied = .ok r →
      r.parameters.get? name = some (.number n) ∧
      r.sql = (Piece.ofText t.sql).flatMap (Piece.render r.parameters) ∧
      Piece.render r.parameters (.slot name) = Json.writeNumber n ∧
      (t.resolve (supplied.insert name (.text (Json.writeNumber n))) = .ok r ↔ n.FitsSigned) := by
  have hsame : n.FitsSigned → t.resolve (supplied.insert name (.text (Json.writeNumber n))) =
      t.resolve supplied := by
    intro hfits
    have hsettle := settle_writeNumber htype hn hfits name
    rw [resolve, resolve, Schema.validate_insert hdistinct hmem (by simp [hsupplied])
      (by rw [hsettle, hsupplied]) (hsettle ▸ settle_number_ne_none p name n)]
  refine ⟨hsame, fun r h => ?_⟩
  obtain ⟨hvalidate, hsubstitute⟩ := resolve_eq_ok_iff.1 h
  have hvalue := Schema.get?_validate_number hdistinct hvalidate hmem htype hsupplied
  refine ⟨hvalue, eq_flatMap_of_substitute hsubstitute, ?_, fun htext => ?_, fun hfits =>
    (hsame hfits).trans h⟩
  · rw [Piece.render, hvalue]
    rfl
  · -- the value that settles the parameter is the one that was read from the text
    obtain ⟨hvalidate', -⟩ := resolve_eq_ok_iff.1 htext
    obtain ⟨o, htakes, -, hget⟩ := Schema.takes_of_validate hdistinct hvalidate' hmem
    rw [Json.Fields.get?_insert_self] at htakes hget
    obtain ⟨m, hread, rfl⟩ := (takes_text_iff htype).1 htakes
    rw [hvalue, Option.some_or] at hget
    cases hget
    exact (readNumber?_writeNumber_iff hn).1 hread

/-- A quarter of a millionth: the double nearest to it is a multiple of `2 ^ (-74)`. -/
def smallArea : Dyadic := ⟨false, 4722366482869645, -74⟩

theorem resolve_writeNumber_smallArea :
    largeLots.schema.Distinct ∧ (JsonNumber.real smallArea).Representable ∧
      largeLots.resolve [("min_area".toList, .number (.real smallArea))] =
        .ok ⟨largeLotsSql "2.5e-7".toList, [("min_area".toList, .number (.real smallArea))]⟩ ∧
      largeLots.resolve [("min_area".toList, .text "2.5e-7".toList)] =
        .ok ⟨largeLotsSql "2.5e-7".toList, [("min_area".toList, .number (.real smallArea))]⟩ := by
  have hdistinct : largeLots.schema.Distinct := by decide
  have hdouble : (JsonNumber.real smallArea).Representable :=
    ⟨by norm_num [smallArea], by norm_num [smallArea], by norm_num [smallArea],
      .inl (by norm_num [smallArea])⟩
  have hwritten : Json.writeNumber (.real smallArea) = "2.5e-7".toList := by decide +kernel
  have hnumber := resolve_largeLots (v := .number (.real smallArea))
    ((takes_number_iff rfl).2 rfl) (congrArg some hwritten)
  have htext : largeLots.resolve
      (Json.Fields.insert "min_area".toList (.text (Json.writeNumber (.real smallArea)))
        [("min_area".toList, .number (.real smallArea))]) = .ok _ :=
    ((resolve_writeNumber_iff hdistinct List.mem_cons_self rfl hdouble rfl).2 _ hnumber).2.2.2.2
      trivial
  rw [hwritten] at htext
  exact ⟨hdistinct, hdouble, hnumber, htext⟩

/-- The greatest integer of 64 bits without a sign. -/
def largestArea : JsonNumber := .whole 18446744073709551615

/-- The double nearest to it. -/
def roundedArea : Dyadic := ⟨false, 4503599627370496, 12⟩

theorem not_resolve_writeNumber_largestArea :
    largestArea.Representable ∧
      largeLots.resolve [("min_area".toList, .number largestArea)] =
        .ok ⟨largeLotsSql "18446744073709551615".toList,
          [("min_area".toList, .number largestArea)]⟩ ∧
      largeLots.resolve [("min_area".toList, .text (Json.writeNumber largestArea))] =
        .ok ⟨largeLotsSql "1.8446744073709552e+19".toList,
          [("min_area".toList, .number (.real roundedArea))]⟩ ∧
      largeLots.resolve [("min_area".toList, .text (Json.writeNumber largestArea))] ≠
        largeLots.resolve [("min_area".toList, .number largestArea)] := by
  have hread : readNumber? (Text.trim (Json.writeNumber largestArea)) =
      some (.real roundedArea) := by decide +kernel
  have hwhole : Json.writeNumber largestArea = "18446744073709551615".toList := by decide +kernel
  have hreal : Json.writeNumber (.real roundedArea) = "1.8446744073709552e+19".toList := by
    decide +kernel
  have hnumber := resolve_largeLots (v := .number largestArea)
    ((takes_number_iff rfl).2 rfl) (congrArg some hwhole)
  have htext := resolve_largeLots (v := .text (Json.writeNumber largestArea))
    ((takes_text_iff rfl).2 ⟨_, hread, rfl⟩) (congrArg some hreal)
  refine ⟨⟨by decide, by decide⟩, hnumber, htext, fun hsame => ?_⟩
  have hdigits := congrArg Resolved.sql (Except.ok.inj (htext.symm.trans (hsame.trans hnumber)))
  exact absurd (List.append_cancel_left hdigits) (by decide)

end Template

end LotSearch
