import LotSearch.Proofs.Template.Literal
import LotSearch.Proofs.Text.Distinct
import LotSearch.Template.Resolved

/-!
# Segments of a template

The pieces of a template together with the texts they are cut from.  The texts make up the
template, and each is replaced by what its piece is rendered as, so every place between two
segments has its place in the resolved statement.
-/

namespace LotSearch

open Statement

namespace Piece

theorem ofText_of_placeholder? {c : Char} {t name rest : Text}
    (h : placeholder? (c :: t) = some (name, rest)) :
    ofText (c :: t) = .slot name :: ofText rest := by
  rw [ofText]
  split
  · next name' rest' hfound =>
    obtain ⟨rfl, rfl⟩ : name = name' ∧ rest = rest' := by simpa [h] using hfound
    rfl
  · next hnone =>
    rw [h] at hnone
    cases hnone

theorem ofText_of_none {c : Char} {t : Text} (h : placeholder? (c :: t) = none) :
    ofText (c :: t) = .char c :: ofText t := by
  rw [ofText]
  split
  · next hfound =>
    rw [h] at hfound
    cases hfound
  · rfl

end Piece

structure Segment where
  piece : Piece
  source : Text

namespace Segment

/-- The segments of a template, cut as its pieces are. -/
def ofText : Text → List Segment
  | [] => []
  | c :: t =>
      match _found : Piece.placeholder? (c :: t) with
      | some (name, rest) =>
          ⟨.slot name, (c :: t).take ((c :: t).length - rest.length)⟩ :: ofText rest
      | none => ⟨.char c, [c]⟩ :: ofText t
termination_by t => t.length
decreasing_by
  · exact Piece.length_lt_of_placeholder? ‹_›
  · simp

def sources (segments : List Segment) : Text := segments.flatMap source

def rendered (values : Json.Fields) (segments : List Segment) : Text :=
  segments.flatMap fun segment => segment.piece.render values

@[simp] theorem sources_append (before after : List Segment) :
    sources (before ++ after) = sources before ++ sources after :=
  List.flatMap_append

@[simp] theorem rendered_append (values : Json.Fields) (before after : List Segment) :
    rendered values (before ++ after) = rendered values before ++ rendered values after :=
  List.flatMap_append

theorem ofText_of_placeholder? {c : Char} {t name rest : Text}
    (h : Piece.placeholder? (c :: t) = some (name, rest)) :
    ofText (c :: t) =
      ⟨.slot name, (c :: t).take ((c :: t).length - rest.length)⟩ :: ofText rest := by
  rw [ofText]
  split
  · next name' rest' hfound =>
    obtain ⟨rfl, rfl⟩ : name = name' ∧ rest = rest' := by simpa [h] using hfound
    rfl
  · next hnone =>
    rw [h] at hnone
    cases hnone

theorem ofText_of_none {c : Char} {t : Text} (h : Piece.placeholder? (c :: t) = none) :
    ofText (c :: t) = ⟨.char c, [c]⟩ :: ofText t := by
  rw [ofText]
  split
  · next hfound =>
    rw [h] at hfound
    cases hfound
  · rfl

theorem map_piece_ofText (t : Text) : (ofText t).map piece = Piece.ofText t := by
  induction t using ofText.induct with
  | case1 => rw [ofText, Piece.ofText, List.map_nil]
  | case2 c t name rest hfound ih =>
      rw [ofText_of_placeholder? hfound, Piece.ofText_of_placeholder? hfound, List.map_cons, ih]
  | case3 c t hnone ih =>
      rw [ofText_of_none hnone, Piece.ofText_of_none hnone, List.map_cons, ih]

end Segment

namespace Piece

theorem plain_of_isBlank {c : Char} (h : isBlank c = true) : c ≠ '\'' ∧ c ≠ '-' :=
  ⟨ne_of_class h (by decide), ne_of_class h (by decide)⟩

theorem plain_of_isNameChar {c : Char} (h : isNameChar c = true) : c ≠ '\'' ∧ c ≠ '-' :=
  ⟨ne_of_class h (by decide), ne_of_class h (by decide)⟩

theorem exists_append_dropWhile {p : Char → Bool}
    (hp : ∀ c, p c = true → c ≠ '\'' ∧ c ≠ '-') (t : Text) :
    ∃ u, t = u ++ t.dropWhile p ∧ ∀ c ∈ u, c ≠ '\'' ∧ c ≠ '-' :=
  ⟨t.takeWhile p, List.takeWhile_append_dropWhile.symm,
    fun c hc => hp c (List.mem_takeWhile_imp hc)⟩

/-- A placeholder stands between its braces, and holds neither quotes nor hyphens. -/
theorem of_placeholder? {t name rest : Text} (h : placeholder? t = some (name, rest)) :
    ∃ inside, t = opening ++ inside ++ closing ++ rest ∧ ∀ c ∈ inside, c ≠ '\'' ∧ c ≠ '-' := by
  unfold placeholder? at h
  split at h
  · cases h
  · cases h
  · next c u hu =>
    split_ifs at h with hc
    obtain ⟨r, hr, heq⟩ := Option.map_eq_some_iff.1 h
    cases heq
    obtain ⟨s, hs, hsu⟩ := Option.map_eq_some_iff.1 hu
    obtain ⟨gap, hgap, hgap_plain⟩ := exists_append_dropWhile (fun _ => plain_of_isBlank) s
    obtain ⟨more, hmore, hmore_plain⟩ := exists_append_dropWhile (fun _ => plain_of_isNameChar) u
    obtain ⟨gap', hgap', hgap_plain'⟩ :=
      exists_append_dropWhile (fun _ => plain_of_isBlank) (u.dropWhile isNameChar)
    have hstart : isNameChar c = true := by
      simp only [isNameStart, isNameChar, Char.isAlphanum, Bool.or_eq_true] at hc ⊢
      exact hc.imp_left .inl
    refine ⟨gap ++ c :: more ++ gap', ?_, fun d hd => ?_⟩
    · have hopen := Text.after?_eq_some_iff.1 hs
      have hclose := Text.after?_eq_some_iff.1 hr
      rw [Text.trimStart] at hsu hclose
      rw [hclose] at hgap'
      rw [hgap'] at hmore
      rw [hsu, hmore] at hgap
      rw [hopen, hgap]
      simp
    · rcases List.mem_append.1 hd with hd | hd
      · rcases List.mem_append.1 hd with hd | hd
        · exact hgap_plain d hd
        · rcases List.mem_cons.1 hd with rfl | hd
          · exact plain_of_isNameChar hstart
          · exact hmore_plain d hd
      · exact hgap_plain' d hd

end Piece

namespace Segment

/-- How the text of a segment looks. -/
def WellCut (segment : Segment) : Prop :=
  match segment.piece with
  | .char c => segment.source = [c]
  | .slot _ => ∃ inside, segment.source = Piece.opening ++ inside ++ Piece.closing ∧
      ∀ c ∈ inside, c ≠ '\'' ∧ c ≠ '-'

theorem WellCut.slot {name source : Text} (h : WellCut ⟨.slot name, source⟩) :
    Quiet source ∧ source.head? = some '\x7b' := by
  obtain ⟨inside, rfl, hplain⟩ := h
  refine ⟨.of_plain (by simp [Piece.opening]) fun c hc => ?_, rfl⟩
  have hbraces : ∀ c ∈ Piece.opening ++ Piece.closing, c ≠ '\'' ∧ c ≠ '-' :=
    forall_mem_of_all (by decide)
  rcases List.mem_append.1 hc with hc | hc
  · rcases List.mem_append.1 hc with hc | hc
    · exact hbraces c (List.mem_append_left _ hc)
    · exact hplain c hc
  · exact hbraces c (List.mem_append_right _ hc)

theorem ofText_spec (t : Text) :
    sources (ofText t) = t ∧ ∀ segment ∈ ofText t, segment.WellCut := by
  induction t using ofText.induct with
  | case1 => simp [ofText, sources]
  | case2 c t name rest hfound ih =>
      obtain ⟨inside, htext, hplain⟩ := Piece.of_placeholder? hfound
      have hsource : (c :: t).take ((c :: t).length - rest.length) =
          Piece.opening ++ inside ++ Piece.closing := by
        rw [htext]
        exact List.take_left' (by simp only [List.length_append]; omega)
      rw [ofText_of_placeholder? hfound, hsource]
      refine ⟨?_, List.forall_mem_cons.2 ⟨⟨inside, rfl, hplain⟩, ih.2⟩⟩
      rw [htext, sources, List.flatMap_cons]
      exact congrArg _ ih.1
  | case3 c t hnone ih =>
      rw [ofText_of_none hnone]
      exact ⟨congrArg (c :: ·) ih.1, List.forall_mem_cons.2 ⟨rfl, ih.2⟩⟩

/-- Whether `p` holds of the text before each placeholder, when `before` stands before them all. -/
def slotsBehind (p : Text → Bool) : Text → List Segment → Bool
  | _, [] => true
  | before, ⟨.char _, source⟩ :: segments => slotsBehind p (before ++ source) segments
  | before, ⟨.slot _, source⟩ :: segments => p before && slotsBehind p (before ++ source) segments

theorem of_slotsBehind {p : Text → Bool} {text : Text} {before after : List Segment}
    {name source : Text}
    (h : slotsBehind p text (before ++ ⟨.slot name, source⟩ :: after) = true) :
    p (text ++ sources before) = true := by
  induction before generalizing text with
  | nil =>
      simp only [List.nil_append, slotsBehind, Bool.and_eq_true] at h
      simpa [sources] using h.1
  | cons segment before ih =>
      have htail : slotsBehind p (text ++ segment.source)
          (before ++ ⟨.slot name, source⟩ :: after) = true := by
        obtain ⟨piece, source'⟩ := segment
        cases piece with
        | char c => exact h
        | slot name' => exact (Bool.and_eq_true _ _ ▸ h).2
      have hrest := ih htail
      rwa [List.append_assoc] at hrest

/-- What a segment is replaced by: a character by itself, a placeholder by a literal. -/
def Resolves (values : Json.Fields) (segment : Segment) : Prop :=
  match segment.piece with
  | .char _ => True
  | .slot name => ∃ v, Json.Fields.get? name values = some v ∧
      Piece.IsLiteral v (segment.piece.render values)

end Segment

theorem of_substitute {t sql : Text} {values : Json.Fields}
    (h : substitute t values = .ok sql) :
    sql = Segment.rendered values (Segment.ofText t) ∧
      ∀ segment ∈ Segment.ofText t, segment.Resolves values := by
  simp only [substitute] at h
  split at h
  · cases h
  · next hscalar =>
    split at h
    · next hvalued =>
      have hsql := Except.ok.inj h
      rw [← Segment.map_piece_ofText] at hscalar hvalued hsql
      refine ⟨hsql.symm.trans (List.flatMap_map _ _ _), fun segment hmem => ?_⟩
      have hpiece := List.mem_map_of_mem (f := Segment.piece) hmem
      have hnone := List.findSome?_eq_none_iff.1 hscalar _ hpiece
      have hunvalued := List.filterMap_eq_nil_iff.1 (Text.eq_nil_of_distinct hvalued) _ hpiece
      rw [Segment.Resolves]
      generalize segment.piece = piece at hnone hunvalued
      cases piece with
      | char c => trivial
      | slot name =>
          cases hvalue : Json.Fields.get? name values with
          | none => simp [Piece.unvalued?, Piece.slotName?, hvalue] at hunvalued
          | some v =>
              cases hliteral : Piece.literal? v with
              | none => simp [Piece.nonScalar?, Piece.slotName?, hvalue, hliteral] at hnone
              | some text =>
                  refine ⟨v, hvalue, ?_⟩
                  simp only [Piece.render, hvalue, Option.bind_some, hliteral, Option.getD_some]
                  exact Piece.isLiteral_of_literal? hliteral
    · cases h

theorem Template.of_resolve {t : Template} {supplied : Json.Fields} {r : Resolved}
    (h : t.resolve supplied = .ok r) :
    r.sql = Segment.rendered r.parameters (Segment.ofText t.sql) ∧
      ∀ segment ∈ Segment.ofText t.sql, segment.Resolves r.parameters := by
  simp only [Template.resolve, bind, Except.bind] at h
  split at h
  · cases h
  · split at h
    · cases h
    · next hsubstitute =>
      cases h
      exact of_substitute hsubstitute

end LotSearch
