import LotSearch.Proofs.Template.Segment
import LotSearch.Proofs.Text.Delimited
import LotSearch.Proofs.Text.Trim

/-!
# Templates as they are written

A template is written as texts without double opening braces and placeholders between them.  Cutting
it into pieces gives back the characters of the texts and the names of the placeholders, so the
names alone decide what a substitution comes to: the literals in their places, the first name with
a list or an object, or the names without values.
-/

namespace LotSearch

/-- Whether a value is neither a list nor an object. -/
def Json.IsScalar : Json → Prop
  | .list _ => False
  | .object _ => False
  | _ => True

namespace Piece

theorem literal?_eq_none_iff {v : Json} : literal? v = none ↔ ¬ v.IsScalar := by
  rcases v with - | (b | b) | - | - | - | - <;> simp [literal?, Json.IsScalar]

/-- The names that a placeholder can have. -/
def IsName (name : Text) : Prop :=
  ∃ c t, name = c :: t ∧ isNameStart c = true ∧ ∀ d ∈ t, isNameChar d = true

end Piece

/-- A placeholder as it is written: a name, perhaps among blanks, in double braces. -/
structure Hole where
  before : Text
  name : Text
  after : Text
  blank_before : ∀ c ∈ before, isBlank c = true
  isName : Piece.IsName name
  blank_after : ∀ c ∈ after, isBlank c = true

def Hole.text (hole : Hole) : Text :=
  Piece.opening ++ hole.before ++ hole.name ++ hole.after ++ Piece.closing

/-- A template as it is written: a text, then placeholders, each with the text behind it. -/
structure Written where
  first : Text
  more : List (Hole × Text)
  plain_first : ¬ Piece.opening <:+: first
  plain_more : ∀ p ∈ more, ¬ Piece.opening <:+: p.2

namespace Written

def text (w : Written) : Text := w.first ++ w.more.flatMap fun (hole, t) => hole.text ++ t

def names (w : Written) : List Text := w.more.map fun (hole, _) => hole.name

/-- The texts of the template with a text for each name between them. -/
def filled (w : Written) (literal : Text → Text) : Text :=
  w.first ++ w.more.flatMap fun (hole, t) => literal hole.name ++ t

end Written

/-! ## Placeholders -/

namespace Piece

theorem isBlank_of_isNameChar {c : Char} (h : isNameChar c = true) : isBlank c = false := by
  have hranges :
      inRanges [(0x30, 0x39), (0x41, 0x5A), (0x5F, 0x5F), (0x61, 0x7A)] c.toNat = true := by
    simp only [isNameChar, Char.isAlphanum, Char.isAlpha, Char.isUpper, Char.isLower, Char.isDigit,
      Bool.or_eq_true, Bool.and_eq_true, decide_eq_true_eq, beq_iff_eq, ge_iff_le,
      UInt32.le_iff_toNat_le] at h
    rw [inRanges_eq_true_iff]
    rcases h with ((h | h) | h) | rfl
    · exact ⟨(0x41, 0x5A), by simp, h⟩
    · exact ⟨(0x61, 0x7A), by simp, h⟩
    · exact ⟨(0x30, 0x39), by simp, h⟩
    · decide
  exact RangesApart.inRanges_eq_false (by decide) hranges

theorem isNameChar_of_isNameStart {c : Char} (h : isNameStart c = true) : isNameChar c = true := by
  simp only [isNameStart, isNameChar, Char.isAlphanum, Bool.or_eq_true] at h ⊢
  exact h.imp_left .inl

theorem exists_cons_append_closing {gap : Text} (hgap : ∀ c ∈ gap, isBlank c = true)
    (rest : Text) : ∃ c t, gap ++ (closing ++ rest) = c :: t ∧ isNameChar c = false := by
  cases gap with
  | nil => exact ⟨_, _, rfl, by decide⟩
  | cons c gap =>
      refine ⟨c, _, rfl, ?_⟩
      by_contra hname
      have hblank := isBlank_of_isNameChar (by simpa using hname)
      rw [hgap c List.mem_cons_self] at hblank
      cases hblank

theorem placeholder?_hole (hole : Hole) (rest : Text) :
    placeholder? (hole.text ++ rest) = some (hole.name, rest) := by
  obtain ⟨c, u, hname, hc, hu⟩ := hole.isName
  obtain ⟨d, v, hcons, hd⟩ := exists_cons_append_closing hole.blank_after rest
  have hopen : Text.after? opening (hole.text ++ rest) =
      some (hole.before ++ c :: (u ++ (hole.after ++ (closing ++ rest)))) := by
    rw [Text.after?_eq_some_iff, Hole.text, hname]
    simp
  have hstart : Text.trimStart (hole.before ++ c :: (u ++ (hole.after ++ (closing ++ rest)))) =
      c :: (u ++ (hole.after ++ (closing ++ rest))) := by
    apply Text.trimStart_append hole.blank_before
    simpa using isBlank_of_isNameChar (isNameChar_of_isNameStart hc)
  have hstop : (hole.after ++ (closing ++ rest)).head?.any isNameChar = false := by
    simp [hcons, hd]
  have htake := takeWhile_append_of_class hu hstop
  have hdrop := dropWhile_append_of_class hu hstop
  have hend : Text.trimStart (hole.after ++ (closing ++ rest)) = closing ++ rest := by
    rw [Text.trimStart, List.dropWhile_append_of_pos hole.blank_after]
    rfl
  have hclose : Text.after? closing (closing ++ rest) = some rest := Text.after?_eq_some_iff.2 rfl
  simp [placeholder?, hopen, hstart, hc, htake, hdrop, hend, hclose, hname]

theorem placeholder?_eq_none {t : Text} (h : ¬ opening <+: t) : placeholder? t = none := by
  have hafter : Text.after? opening t = none := by
    by_contra hsome
    obtain ⟨r, hr⟩ := Option.ne_none_iff_exists'.1 hsome
    exact h ⟨r, (Text.after?_eq_some_iff.1 hr).symm⟩
  simp [placeholder?, hafter]

theorem placeholder?_three_braces (t : Text) : placeholder? (opening ++ '\x7b' :: t) = none :=
  rfl

/-- No placeholder begins in a text without double opening braces, also not at its end, when
nothing or a placeholder comes behind it. -/
theorem placeholder?_of_plain {c : Char} {t rest : Text} (h : ¬ opening <:+: c :: t)
    (hrest : rest = [] ∨ opening <+: rest) : placeholder? (c :: (t ++ rest)) = none := by
  -- only the last character can make double braces with what comes behind
  cases t with
  | cons d t =>
      apply placeholder?_eq_none
      rintro ⟨r, hr⟩
      obtain ⟨rfl, rfl, -⟩ : '\x7b' = c ∧ '\x7b' = d ∧ r = t ++ rest := by simpa [opening] using hr
      exact h ⟨[], t, rfl⟩
  | nil =>
      rcases hrest with rfl | ⟨rest, rfl⟩
      · exact placeholder?_eq_none fun hprefix => h hprefix.isInfix
      · by_cases hc : c = '\x7b'
        · rw [hc]
          exact placeholder?_three_braces rest
        · apply placeholder?_eq_none
          rintro ⟨r, hr⟩
          exact hc (List.cons.inj hr).1.symm

/-! ## Pieces -/

theorem ofText_hole (hole : Hole) (rest : Text) :
    ofText (hole.text ++ rest) = .slot hole.name :: ofText rest := by
  have hfound := placeholder?_hole hole rest
  rw [Hole.text, opening] at hfound ⊢
  exact ofText_of_placeholder? hfound

theorem ofText_of_plain {s rest : Text} (h : ¬ opening <:+: s)
    (hrest : rest = [] ∨ opening <+: rest) : ofText (s ++ rest) = s.map .char ++ ofText rest := by
  induction s with
  | nil => rfl
  | cons c s ih =>
      have hs : ¬ opening <:+: s := fun hs => h (hs.trans (List.suffix_cons c s).isInfix)
      rw [List.cons_append, ofText_of_none (placeholder?_of_plain h hrest), ih hs]
      rfl

theorem ofText_texts {first : Text} {more : List (Hole × Text)} (hfirst : ¬ opening <:+: first)
    (hmore : ∀ p ∈ more, ¬ opening <:+: p.2) :
    ofText (first ++ more.flatMap fun (hole, t) => hole.text ++ t) =
      first.map .char ++ more.flatMap fun (hole, t) => .slot hole.name :: t.map .char := by
  induction more generalizing first with
  | nil =>
      rw [List.flatMap_nil, List.flatMap_nil, ofText_of_plain hfirst (.inl rfl), ofText]
  | cons p more ih =>
      obtain ⟨hole, t⟩ := p
      obtain ⟨ht, hmore⟩ := List.forall_mem_cons.1 hmore
      have hopen :
          opening <+: hole.text ++ (t ++ more.flatMap fun (hole, t) => hole.text ++ t) := by
        simp only [Hole.text, List.append_assoc]
        exact List.prefix_append _ _
      rw [List.flatMap_cons, List.append_assoc, ofText_of_plain hfirst (.inr hopen), ofText_hole,
        ih ht hmore, List.flatMap_cons, List.cons_append]

theorem filterMap_slotName? (w : Written) : (ofText w.text).filterMap slotName? = w.names := by
  have hchars : ∀ t : Text, (t.map char).filterMap slotName? = [] := by
    intro t
    simp [List.filterMap_map, Function.comp_def, slotName?]
  rw [Written.text, ofText_texts w.plain_first w.plain_more, List.filterMap_append, hchars,
    List.nil_append, Written.names]
  induction w.more with
  | nil => rfl
  | cons p more ih =>
      rw [List.flatMap_cons, List.filterMap_append, ih, List.map_cons]
      simp [slotName?, hchars]

end Piece

/-! ## Substitution -/

namespace Piece

theorem filterMap_slots {α : Type} {f : Piece → Option α} (hf : ∀ c, f (.char c) = none)
    (w : Written) : (ofText w.text).filterMap f = w.names.filterMap fun name => f (.slot name) := by
  rw [← filterMap_slotName?, List.filterMap_filterMap]
  refine List.filterMap_congr fun piece _ => ?_
  cases piece with
  | char c => exact hf c
  | slot name => rfl

theorem findSome?_nonScalar (values : Json.Fields) (w : Written) :
    (ofText w.text).findSome? (nonScalar? values) =
      w.names.findSome? fun name => nonScalar? values (.slot name) := by
  rw [← List.head?_filterMap, filterMap_slots (fun _ => rfl), List.head?_filterMap]

theorem filterMap_unvalued (values : Json.Fields) (w : Written) :
    (ofText w.text).filterMap (unvalued? values) =
      w.names.filter fun name => (values.get? name).isNone := by
  rw [filterMap_slots (fun _ => rfl), ← List.filterMap_eq_filter]
  rfl

theorem flatMap_render (values : Json.Fields) (w : Written) :
    (ofText w.text).flatMap (render values) = w.filled fun name => render values (.slot name) := by
  have hchars : ∀ t : Text, (t.map char).flatMap (render values) = t := by
    intro t
    simp [List.flatMap_map, render]
  rw [Written.text, ofText_texts w.plain_first w.plain_more, List.flatMap_append, hchars,
    Written.filled]
  induction w.more with
  | nil => rfl
  | cons p more ih =>
      rw [List.flatMap_cons, List.flatMap_append, List.append_cancel_left ih]
      simp [hchars]

theorem nonScalar?_eq_none_iff {values : Json.Fields} {name : Text} :
    nonScalar? values (.slot name) = none ↔
      ∀ v, values.get? name = some v → v.IsScalar := by
  cases hvalue : values.get? name with
  | none => simp [nonScalar?, slotName?, hvalue]
  | some v =>
      simp [nonScalar?, slotName?, hvalue, literal?_eq_none_iff]

theorem nonScalar?_eq_some {values : Json.Fields} {name : Text} {v : Json}
    (hvalue : values.get? name = some v) (hv : ¬ v.IsScalar) :
    nonScalar? values (.slot name) = some name := by
  simp [nonScalar?, slotName?, hvalue, literal?_eq_none_iff.2 hv]

end Piece

namespace Written

variable {w : Written} {values : Json.Fields}

theorem findSome?_eq_none
    (h : ∀ name ∈ w.names, ∀ v, values.get? name = some v → v.IsScalar) :
    w.names.findSome? (fun name => Piece.nonScalar? values (.slot name)) = none :=
  List.findSome?_eq_none_iff.2 fun name hname => Piece.nonScalar?_eq_none_iff.2 (h name hname)

theorem substitute_of_scalars
    (h : ∀ name ∈ w.names, ∃ v, values.get? name = some v ∧ v.IsScalar) :
    ∃ literal : Text → Text,
      (∀ name ∈ w.names, ∃ v, values.get? name = some v ∧
        Piece.literal? v = some (literal name)) ∧
      substitute w.text values = .ok (w.filled literal) := by
  refine ⟨fun name => Piece.render values (.slot name), fun name hname => ?_, ?_⟩
  · obtain ⟨v, hvalue, hv⟩ := h name hname
    obtain ⟨literal, hliteral⟩ :=
      Option.ne_none_iff_exists'.1 (mt Piece.literal?_eq_none_iff.1 (not_not_intro hv))
    exact ⟨v, hvalue, by simp [Piece.render, hvalue, hliteral]⟩
  · have hscalar : ∀ name ∈ w.names, ∀ v, values.get? name = some v → v.IsScalar := by
      intro name hname u hu
      obtain ⟨v, hvalue, hv⟩ := h name hname
      exact Option.some.inj (hvalue.symm.trans hu) ▸ hv
    have hvalued : (w.names.filter fun name => (values.get? name).isNone) = [] := by
      refine List.filter_eq_nil_iff.2 fun name hname => ?_
      obtain ⟨v, hvalue, -⟩ := h name hname
      simp [hvalue]
    simp only [substitute, Piece.findSome?_nonScalar, findSome?_eq_none hscalar,
      Piece.filterMap_unvalued, hvalued]
    exact congrArg _ (Piece.flatMap_render values w)

theorem substitute_of_composite {front back : List (Hole × Text)} {hole : Hole} {t : Text}
    {v : Json} (hmore : w.more = front ++ (hole, t) :: back)
    (hfront : ∀ p ∈ front, ∀ u, values.get? p.1.name = some u → u.IsScalar)
    (hvalue : values.get? hole.name = some v) (hv : ¬ v.IsScalar) :
    substitute w.text values = .error (.invalidRequest
      ("parameter '".toList ++ hole.name ++ "' must be a scalar value".toList)) := by
  have hfound : w.names.findSome? (fun name => Piece.nonScalar? values (.slot name)) =
      some hole.name := by
    have hnone : (front.map fun p => p.1.name).findSome?
        (fun name => Piece.nonScalar? values (.slot name)) = none := by
      refine List.findSome?_eq_none_iff.2 fun name hname => ?_
      obtain ⟨p, hp, rfl⟩ := List.mem_map.1 hname
      exact Piece.nonScalar?_eq_none_iff.2 (hfront p hp)
    rw [names, hmore, List.map_append, List.map_cons, List.findSome?_append, hnone, Option.none_or,
      List.findSome?_cons_of_isSome]
    · exact Piece.nonScalar?_eq_some hvalue hv
    · rw [Piece.nonScalar?_eq_some hvalue hv]
      rfl
  simp only [substitute, Piece.findSome?_nonScalar, hfound]

theorem substitute_of_unvalued
    (hscalar : ∀ name ∈ w.names, ∀ v, values.get? name = some v → v.IsScalar)
    (hunvalued : ∃ name ∈ w.names, values.get? name = none) :
    ∃ names,
      (∀ name, name ∈ names ↔ name ∈ w.names ∧ values.get? name = none) ∧
      (names.Pairwise fun a b => w.names.idxOf a < w.names.idxOf b) ∧
      substitute w.text values = .error (.invalidRequest
        ("unresolved template placeholders: ".toList ++ Text.join ", ".toList names)) := by
  have hmem : ∀ name, name ∈ Text.distinct (w.names.filter fun name => (values.get? name).isNone) ↔
      name ∈ w.names ∧ values.get? name = none := by
    intro name
    rw [Text.mem_distinct_iff, List.mem_filter, Option.isNone_iff_eq_none]
  refine ⟨_, hmem, Text.pairwise_distinct_filter _ _, ?_⟩
  simp only [substitute, Piece.findSome?_nonScalar, findSome?_eq_none hscalar,
    Piece.filterMap_unvalued]
  -- the list of names is not empty, so the substitution fails
  split
  · next hnil =>
    obtain ⟨name, hname⟩ := hunvalued
    have hkept := (hmem name).2 hname
    rw [hnil] at hkept
    cases hkept
  · rfl

end Written

/-- The literals stand in the places of the placeholders, as they are, when every name has a value
with a literal.  Else the first name with a list or an object is reported, or the names without
values, each once and in the order in which they first occur. -/
theorem substitute_written (w : Written) (values : Json.Fields) :
    ((∀ name ∈ w.names, ∃ v, values.get? name = some v ∧ v.IsScalar) →
      ∃ literal : Text → Text,
        (∀ name ∈ w.names, ∃ v, values.get? name = some v ∧
          Piece.literal? v = some (literal name)) ∧
        substitute w.text values = .ok (w.filled literal)) ∧
    (∀ front hole t back v, w.more = front ++ (hole, t) :: back →
      (∀ p ∈ front, ∀ u, values.get? p.1.name = some u → u.IsScalar) →
      values.get? hole.name = some v → ¬ v.IsScalar →
      substitute w.text values = .error (.invalidRequest
        ("parameter '".toList ++ hole.name ++ "' must be a scalar value".toList))) ∧
    ((∀ name ∈ w.names, ∀ v, values.get? name = some v → v.IsScalar) →
      (∃ name ∈ w.names, values.get? name = none) →
      ∃ names,
        (∀ name, name ∈ names ↔ name ∈ w.names ∧ values.get? name = none) ∧
        (names.Pairwise fun a b => w.names.idxOf a < w.names.idxOf b) ∧
        substitute w.text values = .error (.invalidRequest
          ("unresolved template placeholders: ".toList ++ Text.join ", ".toList names))) :=
  ⟨Written.substitute_of_scalars, fun _ _ _ _ _ => Written.substitute_of_composite,
    Written.substitute_of_unvalued⟩

namespace Written

theorem isName_lot : Piece.IsName "lot".toList :=
  ⟨'l', _, rfl, by decide, forall_mem_of_all (by decide)⟩

theorem isName_area : Piece.IsName "area".toList :=
  ⟨'a', _, rfl, by decide, forall_mem_of_all (by decide)⟩

/-- One name twice, once among blanks, and texts that are empty or end in a brace. -/
def lots : Written where
  first := "SELECT ".toList
  more :=
    [(⟨[' ', ' '], _, ['\t'], forall_mem_of_all (by decide), isName_lot,
        forall_mem_of_all (by decide)⟩, ", \x7b".toList),
      (⟨[], _, [], by simp, isName_area, by simp⟩, []),
      (⟨[], _, [], by simp, isName_lot, by simp⟩, " \x7b".toList)]
  plain_first := by decide
  plain_more := by decide

def lotsValues : Json.Fields :=
  [("area".toList, .null), ("lot".toList, .text "\x7b\x7barea\x7d\x7d".toList)]

end Written

theorem substitute_written_lots :
    Written.lots.text =
        "SELECT \x7b\x7b  lot\t\x7d\x7d, \x7b\x7b\x7barea\x7d\x7d\x7b\x7blot\x7d\x7d \x7b".toList ∧
      substitute Written.lots.text Written.lotsValues =
        .ok "SELECT '\x7b\x7barea\x7d\x7d', \x7bNULL'\x7b\x7barea\x7d\x7d' \x7b".toList ∧
      substitute Written.lots.text [("area".toList, .list [])] =
        .error (.invalidRequest "parameter 'area' must be a scalar value".toList) ∧
      ∃ names,
        (∀ name, name ∈ names ↔ name ∈ Written.lots.names ∧ Json.Fields.get? name [] = none) ∧
        (names.Pairwise fun a b => Written.lots.names.idxOf a < Written.lots.names.idxOf b) ∧
        substitute Written.lots.text [] = .error (.invalidRequest
          ("unresolved template placeholders: ".toList ++ Text.join ", ".toList names)) := by
  have hnames : Written.lots.names = ["lot".toList, "area".toList, "lot".toList] := rfl
  refine ⟨by decide, ?_, ?_, ?_⟩
  · have hvalued : ∀ name ∈ Written.lots.names, ∃ v,
        Written.lotsValues.get? name = some v ∧ v.IsScalar := by
      simp only [hnames, List.forall_mem_cons]
      exact ⟨⟨_, rfl, trivial⟩, ⟨_, rfl, trivial⟩, ⟨_, rfl, trivial⟩, List.forall_mem_nil _⟩
    obtain ⟨literal, hliteral, hok⟩ := (substitute_written Written.lots _).1 hvalued
    simp only [hnames, List.forall_mem_cons] at hliteral
    obtain ⟨⟨_, hlot, hlotLiteral⟩, ⟨_, harea, hareaLiteral⟩, -⟩ := hliteral
    obtain rfl := Option.some.inj hlot
    obtain rfl := Option.some.inj harea
    have hfilled : Written.lots.filled literal = "SELECT ".toList ++
        ((literal "lot".toList ++ ", \x7b".toList) ++ ((literal "area".toList ++ []) ++
          ((literal "lot".toList ++ " \x7b".toList) ++ []))) := rfl
    rw [hok, hfilled, ← Option.some.inj hlotLiteral, ← Option.some.inj hareaLiteral]
    rfl
  · refine (substitute_written Written.lots _).2.1 [_] _ _ _ _ rfl ?_ rfl id
    exact List.forall_mem_singleton.2 (by rintro u ⟨⟩)
  · exact (substitute_written Written.lots []).2.2 (by simp) ⟨"lot".toList, by simp [hnames], rfl⟩

end LotSearch
