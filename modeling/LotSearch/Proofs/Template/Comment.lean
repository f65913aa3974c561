import LotSearch.Proofs.Template.Segment

/-!
# Comments of a resolved template

Where no placeholder stands in a literal or in a comment, a resolved statement has the comments
that the template has, with one exception: a negative number right behind a hyphen makes a mark
for a comment with it.
-/

namespace LotSearch

namespace Statement

/-- The mark of a comment behind `u`, outside literals. -/
def Marks (t u : Text) : Prop := u ++ ['-', '-'] <+: t ∧ regionAfter .code u ≠ .literal

end Statement

open Statement

namespace Segment

/-! ## Places -/

/-- The places between the segments of a template, in the template and in what it is resolved
to. -/
def Corresponds (t : Text) (values : Json.Fields) (u v : Text) : Prop :=
  ∃ before after, ofText t = before ++ after ∧ u = sources before ∧ v = rendered values before

/-- Every placeholder stands outside literals and comments. -/
def SlotsInCode (t : Text) : Prop :=
  ∀ before name source after, ofText t = before ++ ⟨.slot name, source⟩ :: after →
    regionAfter .code (sources before) = .code

def inCode : Text → List Segment → Bool
  | _, [] => true
  | before, ⟨.char _, source⟩ :: segments => inCode (before ++ source) segments
  | before, ⟨.slot _, source⟩ :: segments =>
      regionAfter .code before == .code && inCode (before ++ source) segments

theorem inCode_eq_slotsBehind (before : Text) (segments : List Segment) :
    inCode before segments = slotsBehind (regionAfter .code · == .code) before segments := by
  induction segments generalizing before with
  | nil => rfl
  | cons segment segments ih =>
      obtain ⟨piece, source⟩ := segment
      cases piece <;> simp only [inCode, slotsBehind, ih]

theorem slotsInCode_of_inCode {t : Text} (h : inCode [] (ofText t) = true) : SlotsInCode t := by
  intro before name source after htext
  rw [htext, inCode_eq_slotsBehind] at h
  simpa using of_slotsBehind h

/-- A placeholder with a negative number stands right behind a hyphen. -/
def SignBehindHyphen (t : Text) (values : Json.Fields) : Prop :=
  ∃ before name source after n, ofText t = before ++ ⟨.slot name, source⟩ :: after ∧
    (sources before).getLast? = some '-' ∧ Json.Fields.get? name values = some (.number n) ∧
    n.IsNegative

/-- A resolved template has the marks of comments that the template has, at the places that
correspond, and no place has moved into or out of a comment. -/
structure KeepsComments (t : Text) (values : Json.Fields) (sql : Text) : Prop where
  marks : ∀ v, Marks sql v ↔ ∃ u, Corresponds t values u v ∧ Marks t u
  regions : ∀ u v, Corresponds t values u v → regionAfter .code v = regionAfter .code u

section

variable {t : Text} {values : Json.Fields}

theorem head?_render_slot {before after : List Segment} {name source : Text}
    (hres : Resolves values ⟨.slot name, source⟩) (hsign : ¬ SignBehindHyphen t values)
    (hsplit : ofText t = before ++ ⟨.slot name, source⟩ :: after)
    (hlast : (sources before).getLast? = some '-') :
    ((Piece.slot name).render values).head? ≠ some '-' := by
  intro hhead
  obtain ⟨v, hv, hliteral⟩ := hres
  obtain ⟨n, rfl, hn⟩ := hliteral.head?.1 hhead
  exact hsign ⟨before, name, source, after, n, hsplit, hlast, hv, hn⟩

/-- At corresponding places the same region is left, and the same hyphen. -/
theorem agree (hres : ∀ segment ∈ ofText t, segment.Resolves values) (hcode : SlotsInCode t)
    (hsign : ¬ SignBehindHyphen t values) {before after : List Segment}
    (hsplit : ofText t = before ++ after) :
    regionAfter .code (rendered values before) = regionAfter .code (sources before) ∧
      ((rendered values before).getLast? = some '-' ↔ (sources before).getLast? = some '-') := by
  induction before using List.reverseRecOn generalizing after with
  | nil => exact ⟨rfl, Iff.rfl⟩
  | append_singleton before segment ih =>
      rw [List.append_assoc] at hsplit
      obtain ⟨hregion, hhyphen⟩ := ih hsplit
      have hmem : segment ∈ ofText t := hsplit ▸ by simp
      have hcut := (ofText_spec t).2 segment hmem
      have hresolves := hres segment hmem
      obtain ⟨piece, source⟩ := segment
      cases piece with
      | char c =>
          obtain rfl : source = [c] := hcut
          have hsame : ((rendered values before).getLast? == some '-') =
              ((sources before).getLast? == some '-') := by
            rw [Bool.eq_iff_iff, beq_iff_eq, beq_iff_eq]
            exact hhyphen
          have hrendered : rendered values [⟨.char c, [c]⟩] = [c] := rfl
          have hsource : sources [⟨.char c, [c]⟩] = [c] := rfl
          rw [rendered_append, sources_append, hrendered, hsource, regionAfter_concat,
            regionAfter_concat, hregion, hsame, List.getLast?_concat, List.getLast?_concat]
          exact ⟨rfl, Iff.rfl⟩
      | slot name =>
          obtain ⟨hquiet, hhead⟩ := hcut.slot
          have hnosign := head?_render_slot hresolves hsign hsplit
          obtain ⟨v, hv, hliteral⟩ := hresolves
          have hrendered : rendered values [⟨.slot name, source⟩] =
              (Piece.slot name).render values := by simp [rendered]
          have hsource : sources [⟨.slot name, source⟩] = source := by simp [sources]
          have hin := hcode _ _ _ _ hsplit
          rw [rendered_append, sources_append, hrendered, hsource]
          constructor
          · rw [regionAfter_append fun hlast => hnosign (hhyphen.1 hlast),
              regionAfter_append (by simp [hhead]), hregion, hin, hquiet.regionAfter_code]
            exact hliteral.region
          · have hends : ∀ s u : Text, u ≠ [] → u.getLast? ≠ some '-' →
                (s ++ u).getLast? ≠ some '-' := by
              intro s u hne hlast
              rwa [List.getLast?_append_of_ne_nil _ hne]
            exact iff_of_false (hends _ _ hliteral.ne_nil hliteral.getLast?)
              (hends _ _ hquiet.ne_nil hquiet.getLast?)

theorem exists_hyphen_of_sources {segments : List Segment} {rest : Text}
    (hcut : ∀ segment ∈ segments, segment.WellCut) (h : sources segments = '-' :: rest) :
    ∃ after, segments = ⟨.char '-', ['-']⟩ :: after ∧ sources after = rest := by
  cases segments with
  | nil => cases h
  | cons segment after =>
      have hfirst := hcut segment (by simp)
      obtain ⟨piece, source⟩ := segment
      rw [sources, List.flatMap_cons] at h
      cases piece with
      | char c =>
          obtain rfl : source = [c] := hfirst
          obtain ⟨rfl, hrest⟩ := List.cons.inj h
          exact ⟨after, rfl, hrest⟩
      | slot name =>
          obtain ⟨hquiet, hhead⟩ := hfirst.slot
          have hhead' := congrArg List.head? h
          rw [List.head?_append_of_ne_nil _ hquiet.ne_nil, hhead] at hhead'
          simp at hhead'

theorem marks_of_marks {sql : Text} (hsql : sql = rendered values (ofText t))
    (hagree : ∀ {before after}, ofText t = before ++ after →
      regionAfter .code (rendered values before) = regionAfter .code (sources before))
    {u v : Text} (hplace : Corresponds t values u v) (h : Marks t u) : Marks sql v := by
  obtain ⟨before, after, hsplit, rfl, rfl⟩ := hplace
  obtain ⟨⟨rest, hmark⟩, hregion⟩ := h
  obtain ⟨hsources, hcut⟩ := ofText_spec t
  have hafter : sources after = '-' :: '-' :: rest := by
    rw [hsplit, sources_append, ← hmark, List.append_assoc] at hsources
    exact List.append_cancel_left hsources
  have hcut_after : ∀ segment ∈ after, segment.WellCut := by
    intro segment hmem
    exact hcut segment (hsplit ▸ List.mem_append_right _ hmem)
  obtain ⟨second, rfl, hsecond⟩ := exists_hyphen_of_sources hcut_after hafter
  obtain ⟨third, rfl, -⟩ := exists_hyphen_of_sources
    (fun segment hmem => hcut_after segment (List.mem_cons_of_mem _ hmem)) hsecond
  refine ⟨⟨rendered values third, ?_⟩, by rwa [hagree hsplit]⟩
  rw [hsql, hsplit, rendered_append, List.append_assoc]
  rfl

theorem exists_of_append_eq_rendered {segments : List Segment} {v w : Text}
    (h : v ++ w = rendered values segments) (hw : w ≠ []) :
    ∃ before segment after x y, segments = before ++ segment :: after ∧
      v = rendered values before ++ x ∧ segment.piece.render values = x ++ y ∧ y ≠ [] ∧
      w = y ++ rendered values after := by
  induction segments generalizing v with
  | nil => exact absurd (List.append_eq_nil_iff.1 h).2 hw
  | cons segment segments ih =>
      have hfirst : rendered values (segment :: segments) =
          segment.piece.render values ++ rendered values segments := List.flatMap_cons
      rw [hfirst] at h
      have hlater : ∀ v', v = segment.piece.render values ++ v' →
          v' ++ w = rendered values segments → ∃ before segment' after x y,
            segment :: segments = before ++ segment' :: after ∧
            v = rendered values before ++ x ∧ segment'.piece.render values = x ++ y ∧ y ≠ [] ∧
            w = y ++ rendered values after := by
        intro v' hv' hrest
        obtain ⟨before, segment', after, x, y, rfl, rfl, hrender, hy, hw'⟩ := ih hrest
        refine ⟨segment :: before, segment', after, x, y, rfl, ?_, hrender, hy, hw'⟩
        rw [hv', ← List.append_assoc]
        rfl
      rcases List.append_eq_append_iff.1 h with ⟨x, hrender, hrest⟩ | ⟨v', hv', hrest⟩
      · by_cases hx : x = []
        · refine hlater [] ?_ ?_
          · rw [hrender, hx, List.append_nil, List.append_nil]
          · rw [hrest, hx]
            rfl
        · exact ⟨[], segment, segments, v, x, rfl, rfl, hrender, hx, hrest⟩
      · exact hlater v' hv' hrest.symm

/-- Behind a hyphen of the template no literal begins with another one, when no sign does. -/
theorem exists_hyphen_of_rendered {before after : List Segment} {rest : Text}
    (hres : ∀ segment ∈ ofText t, segment.Resolves values) (hsign : ¬ SignBehindHyphen t values)
    (hsplit : ofText t = before ++ ⟨.char '-', ['-']⟩ :: after)
    (h : rendered values after = '-' :: rest) :
    ∃ third, after = ⟨.char '-', ['-']⟩ :: third := by
  cases after with
  | nil => cases h
  | cons segment third =>
      have hmem : segment ∈ ofText t := hsplit ▸ by simp
      have hcut := (ofText_spec t).2 segment hmem
      have hresolves := hres segment hmem
      obtain ⟨piece, source⟩ := segment
      rw [rendered, List.flatMap_cons] at h
      cases piece with
      | char c =>
          obtain rfl : source = [c] := hcut
          obtain ⟨rfl, -⟩ := List.cons.inj h
          exact ⟨third, rfl⟩
      | slot name =>
          have hsplit_slot : ofText t =
              (before ++ [⟨.char '-', ['-']⟩]) ++ ⟨.slot name, source⟩ :: third := by
            rw [hsplit, List.append_assoc]
            rfl
          have hnosign := head?_render_slot hresolves hsign hsplit_slot (by simp [sources])
          obtain ⟨v, hv, hliteral⟩ := hresolves
          have hhead := congrArg List.head? h
          rw [List.head?_append_of_ne_nil _ hliteral.ne_nil] at hhead
          exact absurd hhead hnosign

theorem regionAfter_of_mark_in_slot {before after : List Segment} {name source x y rest : Text}
    (hres : ∀ segment ∈ ofText t, segment.Resolves values) (hcode : SlotsInCode t)
    (hsign : ¬ SignBehindHyphen t values)
    (hsplit : ofText t = before ++ ⟨.slot name, source⟩ :: after)
    (hrender : (Piece.slot name).render values = x ++ '-' :: y)
    (hrest : '-' :: rest = y ++ rendered values after) :
    regionAfter .code (rendered values before ++ x) = .literal := by
  have hresolves := hres ⟨.slot name, source⟩ (hsplit ▸ by simp)
  have hnosign := head?_render_slot hresolves hsign hsplit
  obtain ⟨hbefore, hhyphen⟩ := agree hres hcode hsign hsplit
  obtain ⟨v, hv, hliteral⟩ := hresolves
  obtain ⟨z, rfl⟩ : ∃ z, y = '-' :: z := by
    cases y with
    | nil =>
        have hlast : ((Piece.slot name).render values).getLast? = some '-' := by
          rw [hrender]
          exact List.getLast?_concat
        exact absurd hlast hliteral.getLast?
    | cons c z => exact ⟨z, by rw [(List.cons.inj hrest).1]⟩
  have hinside := hliteral.inside x z hrender
  have hcut : (rendered values before).getLast? = some '-' → x.head? ≠ some '-' := by
    intro hlast hhead
    apply hnosign (hhyphen.1 hlast)
    rw [hrender, List.head?_append, hhead]
    rfl
  rw [regionAfter_append hcut, hbefore, hcode _ _ _ _ hsplit]
  exact hinside

theorem exists_marks_of_marks {sql : Text} (hsql : sql = rendered values (ofText t))
    (hres : ∀ segment ∈ ofText t, segment.Resolves values) (hcode : SlotsInCode t)
    (hsign : ¬ SignBehindHyphen t values) {v : Text} (h : Marks sql v) :
    ∃ u, Corresponds t values u v ∧ Marks t u := by
  obtain ⟨⟨rest, hmark⟩, hregion⟩ := h
  obtain ⟨hsources, hcut⟩ := ofText_spec t
  have hcutting : v ++ '-' :: '-' :: rest = rendered values (ofText t) := by
    rw [← hsql, ← hmark, List.append_assoc]
    rfl
  obtain ⟨before, segment, after, x, y, hsplit, rfl, hrender, hy, hrest⟩ :=
    exists_of_append_eq_rendered hcutting (by simp)
  have hcut_segment := hcut segment (hsplit ▸ by simp)
  obtain ⟨c, y, rfl⟩ := List.exists_cons_of_ne_nil hy
  obtain ⟨rfl, hmore⟩ := List.cons.inj hrest
  obtain ⟨piece, source⟩ := segment
  cases piece with
  | slot name =>
      exact absurd (regionAfter_of_mark_in_slot hres hcode hsign hsplit hrender hmore) hregion
  | char c =>
      obtain rfl : source = [c] := hcut_segment
      obtain ⟨rfl, rfl, rfl⟩ : x = [] ∧ c = '-' ∧ y = [] := by
        have hsingle : [c] = x ++ '-' :: y := hrender
        cases x with
        | nil =>
            obtain ⟨rfl, hnil⟩ := List.cons.inj hsingle
            exact ⟨rfl, rfl, hnil.symm⟩
        | cons d x => simp at hsingle
      obtain ⟨third, rfl⟩ := exists_hyphen_of_rendered hres hsign hsplit hmore.symm
      rw [List.append_nil] at hregion
      refine ⟨sources before, ⟨before, _, hsplit, rfl, List.append_nil _⟩, ?_, ?_⟩
      · refine ⟨sources third, ?_⟩
        rw [← hsources, hsplit, sources_append, List.append_assoc]
        rfl
      · rwa [← (agree hres hcode hsign hsplit).1]

theorem eq_nil_of_rendered {segments : List Segment}
    (hres : ∀ segment ∈ segments, segment.Resolves values)
    (h : rendered values segments = []) : segments = [] := by
  cases segments with
  | nil => rfl
  | cons segment segments =>
      have hresolves := hres segment List.mem_cons_self
      obtain ⟨hfirst, -⟩ := List.append_eq_nil_iff.1 h
      obtain ⟨piece, source⟩ := segment
      cases piece with
      | char c => cases hfirst
      | slot name =>
          obtain ⟨v, -, hliteral⟩ := hresolves
          exact absurd hfirst hliteral.ne_nil

theorem before_eq_of_rendered_eq (hres : ∀ segment ∈ ofText t, segment.Resolves values)
    {before after before' after' : List Segment} (hsplit : ofText t = before ++ after)
    (hsplit' : ofText t = before' ++ after')
    (h : rendered values before = rendered values before') : before = before' := by
  rcases List.append_eq_append_iff.1 (hsplit.symm.trans hsplit') with
    ⟨more, rfl, rfl⟩ | ⟨more, rfl, rfl⟩
  · have hmore : ∀ segment ∈ more, segment.Resolves values := by
      intro segment hmem
      apply hres
      simp [hsplit', hmem]
    rw [rendered_append, List.self_eq_append_right] at h
    rw [eq_nil_of_rendered hmore h, List.append_nil]
  · have hmore : ∀ segment ∈ more, segment.Resolves values := by
      intro segment hmem
      apply hres
      simp [hsplit, hmem]
    rw [rendered_append, List.append_right_eq_self] at h
    rw [eq_nil_of_rendered hmore h, List.append_nil]

theorem exists_hyphen_of_getLast? {segments : List Segment}
    (hcut : ∀ segment ∈ segments, segment.WellCut)
    (h : (sources segments).getLast? = some '-') :
    ∃ before, segments = before ++ [⟨.char '-', ['-']⟩] := by
  rcases List.eq_nil_or_concat' segments with rfl | ⟨before, segment, rfl⟩
  · cases h
  · have hlast := hcut segment (by simp)
    have hsource : sources [segment] = segment.source := by simp [sources]
    obtain ⟨piece, source⟩ := segment
    rw [sources_append, hsource] at h
    cases piece with
    | char c =>
        obtain rfl : source = [c] := hlast
        rw [List.getLast?_concat] at h
        exact ⟨before, by rw [Option.some.inj h]⟩
    | slot name =>
        obtain ⟨hquiet, -⟩ := hlast.slot
        rw [List.getLast?_append_of_ne_nil _ hquiet.ne_nil] at h
        exact absurd h hquiet.getLast?

/-- A negative number right behind a hyphen makes a mark that the template does not have. -/
theorem not_keepsComments {sql : Text} (hsql : sql = rendered values (ofText t))
    (hres : ∀ segment ∈ ofText t, segment.Resolves values) (hcode : SlotsInCode t)
    (hsign : SignBehindHyphen t values) : ¬ KeepsComments t values sql := by
  intro hkeeps
  obtain ⟨before, name, source, after, n, hsplit, hlast, hvalue, hn⟩ := hsign
  obtain ⟨hsources, hcut⟩ := ofText_spec t
  have hin := hcode _ _ _ _ hsplit
  obtain ⟨v, hv, hliteral⟩ := hres ⟨.slot name, source⟩ (hsplit ▸ by simp)
  obtain rfl : v = .number n := Option.some.inj (hv.symm.trans hvalue)
  obtain ⟨y, hrender⟩ : ∃ y, (Piece.slot name).render values = '-' :: y :=
    List.head?_eq_some_iff.1 (hliteral.head?.2 ⟨n, rfl, hn⟩)
  have hcut_slot := hcut ⟨.slot name, source⟩ (hsplit ▸ by simp)
  obtain ⟨hquiet, hhead⟩ := hcut_slot.slot
  obtain ⟨first, rfl⟩ := exists_hyphen_of_getLast?
    (fun segment hmem => hcut segment (hsplit ▸ List.mem_append_left _ hmem)) hlast
  rw [List.append_assoc] at hsplit
  have hplace : Corresponds t values (sources first) (rendered values first) :=
    ⟨first, _, hsplit, rfl, rfl⟩
  have hregion : regionAfter .code (sources first) ≠ .literal := by
    intro hliteral_region
    have hhyphen : sources [⟨.char '-', ['-']⟩] = ['-'] := rfl
    rw [sources_append, hhyphen, regionAfter_concat, hliteral_region] at hin
    exact absurd hin (by simp [Region.next])
  have hmark : Marks sql (rendered values first) := by
    refine ⟨⟨y ++ rendered values after, ?_⟩, ?_⟩
    · rw [hsql, hsplit, rendered_append, List.append_assoc]
      have hrest : rendered values ([⟨.char '-', ['-']⟩] ++ ⟨.slot name, source⟩ :: after) =
          ['-'] ++ ((Piece.slot name).render values ++ rendered values after) := rfl
      rw [hrest, hrender]
      rfl
    · rw [hkeeps.regions _ _ hplace]
      exact hregion
  obtain ⟨u, ⟨before', after', hsplit', rfl, hsame⟩, ⟨rest, hmarked⟩, -⟩ :=
    (hkeeps.marks _).1 hmark
  obtain rfl := before_eq_of_rendered_eq hres hsplit hsplit' hsame
  have htext : sources first ++ (['-', '-'] ++ rest) =
      sources first ++ ('-' :: (source ++ sources after)) := by
    rw [← List.append_assoc, hmarked, ← hsources, hsplit, sources_append]
    rfl
  have hsecond := congrArg List.head? (List.cons.inj (List.append_cancel_left htext)).2
  rw [List.head?_append_of_ne_nil _ hquiet.ne_nil, hhead] at hsecond
  exact absurd hsecond (by simp)

end

end Segment

open Segment

/-- Resolving a template opens and closes no comment, unless a negative number stands right behind
a hyphen. -/
theorem Template.keepsComments_resolve_iff {t : Template} {supplied : Json.Fields} {r : Resolved}
    (hcode : SlotsInCode t.sql) (h : t.resolve supplied = .ok r) :
    KeepsComments t.sql r.parameters r.sql ↔ ¬ SignBehindHyphen t.sql r.parameters := by
  obtain ⟨hsql, hres⟩ := Template.of_resolve h
  constructor
  · intro hkeeps hsign
    exact not_keepsComments hsql hres hcode hsign hkeeps
  · intro hsign
    refine ⟨fun v => ⟨exists_marks_of_marks hsql hres hcode hsign, ?_⟩, ?_⟩
    · rintro ⟨u, hplace, hmarks⟩
      exact marks_of_marks hsql (fun hsplit => (agree hres hcode hsign hsplit).1) hplace hmarks
    · rintro u v ⟨before, after, hsplit, rfl, rfl⟩
      exact (agree hres hcode hsign hsplit).1

def marginTemplate : Template where
  id := "1".toList
  name := "Lots".toList
  description := none
  category := none
  sql :=
    "SELECT bbl FROM properties WHERE lotarea > 5000 -\x7b\x7bmargin\x7d\x7d AND borough = 'BK'".toList
  schema := []

theorem slotsInCode_margin : SlotsInCode marginTemplate.sql := slotsInCode_of_inCode (by cbv)

/-- A margin that is not negative keeps the comments of the template. -/
theorem keepsComments_margin :
    SlotsInCode marginTemplate.sql ∧
      marginTemplate.resolve [("margin".toList, .number (.whole 500))] =
        .ok ⟨"SELECT bbl FROM properties WHERE lotarea > 5000 -500 AND borough = 'BK'".toList,
          [("margin".toList, .number (.whole 500))]⟩ ∧
      KeepsComments marginTemplate.sql [("margin".toList, .number (.whole 500))]
        "SELECT bbl FROM properties WHERE lotarea > 5000 -500 AND borough = 'BK'".toList := by
  have hresolve : marginTemplate.resolve [("margin".toList, .number (.whole 500))] =
      .ok ⟨"SELECT bbl FROM properties WHERE lotarea > 5000 -500 AND borough = 'BK'".toList,
        [("margin".toList, .number (.whole 500))]⟩ := by cbv
  refine ⟨slotsInCode_margin, hresolve,
    (Template.keepsComments_resolve_iff slotsInCode_margin hresolve).2 ?_⟩
  rintro ⟨before, name, source, after, n, -, -, hvalue, hn⟩
  obtain rfl : JsonNumber.whole 500 = n := by
    rw [Json.Fields.get?] at hvalue
    split_ifs at hvalue
    · exact Json.number.inj (Option.some.inj hvalue)
    · cases hvalue
  exact absurd hn (by simp [JsonNumber.IsNegative])

theorem not_keepsComments_margin :
    SlotsInCode marginTemplate.sql ∧
      marginTemplate.resolve [("margin".toList, .number (.whole (-500)))] =
        .ok ⟨"SELECT bbl FROM properties WHERE lotarea > 5000 --500 AND borough = 'BK'".toList,
          [("margin".toList, .number (.whole (-500)))]⟩ ∧
      ¬ KeepsComments marginTemplate.sql [("margin".toList, .number (.whole (-500)))]
        "SELECT bbl FROM properties WHERE lotarea > 5000 --500 AND borough = 'BK'".toList := by
  have hresolve : marginTemplate.resolve [("margin".toList, .number (.whole (-500)))] =
      .ok ⟨"SELECT bbl FROM properties WHERE lotarea > 5000 --500 AND borough = 'BK'".toList,
        [("margin".toList, .number (.whole (-500)))]⟩ := by cbv
  obtain ⟨hsql, hres⟩ := Template.of_resolve hresolve
  refine ⟨slotsInCode_margin, hresolve, not_keepsComments hsql hres slotsInCode_margin ?_⟩
  refine ⟨ofText "SELECT bbl FROM properties WHERE lotarea > 5000 -".toList, "margin".toList,
    "\x7b\x7bmargin\x7d\x7d".toList, ofText " AND borough = 'BK'".toList, .whole (-500), ?_, ?_,
    rfl, Int.negSucc_lt_zero 499⟩
  · cbv
  · rw [(ofText_spec _).1]
    decide

end LotSearch
