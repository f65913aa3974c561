import LotSearch.Proofs.Statement.RowBound
import LotSearch.Proofs.Statement.Zone

/-!
# Trivia at the end of a statement

What is cut off the end of a statement are blanks, semicolons and comments, and the statement is in
code where they begin.  The rest of it leaves the gate as it came, up to the clause that bounds its
rows.
-/

namespace LotSearch.Statement

/-! ## Stretches and comments -/

/-- Stretches of a kind with comments between them.  A comment takes the rest of its line, so the
stretch behind it begins with the line break. -/
inductive Spaced (kind : Text → Prop) : Text → Prop
  | stretch {t : Text} (h : kind t) : Spaced kind t
  | line {front comment t : Text} (hfront : Spaced kind front) (hcomment : '\n' ∉ comment)
      (h : kind ('\n' :: t)) : Spaced kind (front ++ ("--".toList ++ (comment ++ '\n' :: t)))

/-- Stretches of a kind with comments, the last of which may end with the text. -/
inductive Interspersed (kind : Text → Prop) : Text → Prop
  | lines {t : Text} (h : Spaced kind t) : Interspersed kind t
  | comment {front comment : Text} (hfront : Spaced kind front) (hcomment : '\n' ∉ comment) :
      Interspersed kind (front ++ ("--".toList ++ comment))

def isPadding (c : Char) : Bool := isBlank c || c == ';'

def Padding (t : Text) : Prop := ∀ c ∈ t, isPadding c = true

/-- Blanks, semicolons and comments. -/
abbrev Trivia : Text → Prop := Interspersed Padding

theorem ne_of_isPadding {c : Char} (h : isPadding c = true) : c ≠ '\'' ∧ c ≠ '-' :=
  ⟨ne_of_class h (by decide), ne_of_class h (by decide)⟩

theorem Padding.regionAfter {t : Text} (h : Padding t) {region : Region}
    (hregion : region ≠ .comment) : regionAfter region t = region :=
  regionAfter_of_ne_comment (fun c hc => ne_of_isPadding (h c hc)) hregion

namespace Spaced

theorem mono {kind kind' : Text → Prop} {t : Text} (hkind : ∀ t, kind t → kind' t)
    (h : Spaced kind t) : Spaced kind' t := by
  induction h with
  | stretch h => exact .stretch (hkind _ h)
  | line _ hcomment h ih => exact .line ih hcomment (hkind _ h)

end Spaced

/-- A line of a comment behind code leads back to code. -/
theorem regionAfter_comment_line {t comment rest : Text} (hcode : regionAfter .code t = .code)
    (hlast : t.getLast? ≠ some '-') (hcomment : '\n' ∉ comment) :
    regionAfter .code (t ++ ("--".toList ++ comment)) = .comment ∧
      regionAfter .code (t ++ ("--".toList ++ (comment ++ '\n' :: rest))) =
        regionAfter .code rest := by
  have hopen : regionAfter .code ("--".toList ++ comment) = regionAfter .comment comment := by
    simp [regionAfter]
  have hline : ∀ u, regionAfter .comment (comment ++ '\n' :: u) = regionAfter .code u := by
    intro u
    clear hopen
    induction comment with
    | nil => simp [regionAfter]
    | cons c comment ih =>
        rw [List.mem_cons, not_or] at hcomment
        simpa [regionAfter, Ne.symm hcomment.1] using ih hcomment.2
  constructor
  · rw [regionAfter_append fun h => absurd h hlast, hcode, hopen]
    exact regionAfter_comment_of_notMem hcomment
  · rw [regionAfter_append fun h => absurd h hlast, hcode]
    simpa [regionAfter] using hline rest

/-- Trivia behind code ends in code, unless its last comment ends with it. -/
theorem Spaced.regionAfter {s t : Text} (h : Spaced Padding t) (hcode : regionAfter .code s = .code)
    (hlast : s.getLast? ≠ some '-') :
    Statement.regionAfter .code (s ++ t) = .code ∧ (s ++ t).getLast? ≠ some '-' := by
  induction h with
  | @stretch t h =>
      constructor
      · rw [regionAfter_append fun hs => absurd hs hlast, hcode]
        exact h.regionAfter (by simp)
      · rw [List.getLast?_append]
        cases ht : t.getLast? with
        | none => exact hlast
        | some c => simpa using (ne_of_isPadding (h c (List.mem_of_getLast? ht))).2
  | @line front comment t hfront hcomment h ih =>
      rw [← List.append_assoc]
      obtain ⟨hcode, hlast⟩ := ih
      constructor
      · rw [(regionAfter_comment_line hcode hlast hcomment).2]
        exact Padding.regionAfter (fun c hc => h c (List.mem_cons_of_mem _ hc)) (by simp)
      · rw [← List.append_assoc, ← List.append_assoc, List.getLast?_append_of_ne_nil _ (by simp)]
        intro hc
        exact (ne_of_isPadding (h _ (List.mem_of_getLast? hc))).2 rfl

/-! ## What a cut takes away -/

theorem eq_code_of_cut_nil {region : Region} {t : Text}
    (h : beforeLastComment? region t = some []) : region = .code ∧ t.head? = some '-' := by
  cases t with
  | nil => cases region <;> cases h
  | cons c t =>
      cases region with
      | code =>
          simp only [beforeLastComment?] at h
          split_ifs at h with hquote hdash hbreak
          · simp at h
          · simp at h
          · simp only [Bool.and_eq_true, decide_eq_true_eq] at hdash
            exact ⟨rfl, by rw [hdash.1, List.head?_cons]⟩
          · simp at h
      | literal => simp [beforeLastComment?] at h
      | comment => simp [beforeLastComment?] at h

/-- A cut takes away a comment to the end, and what stands before is not a hyphen of its mark. -/
theorem eq_append_of_cut {region : Region} {t kept : Text}
    (h : beforeLastComment? region t = some kept) :
    ∃ comment, t = kept ++ ("--".toList ++ comment) ∧ '\n' ∉ comment ∧
      kept.getLast? ≠ some '-' := by
  induction t generalizing region kept with
  | nil => cases region <;> cases h
  | cons c t ih =>
      have step : ∀ {r : Region}, (r = .code → t.head? = some '-' → c ≠ '-') →
          (beforeLastComment? r t).map (c :: ·) = some kept →
          ∃ comment, c :: t = kept ++ ("--".toList ++ comment) ∧ '\n' ∉ comment ∧
            kept.getLast? ≠ some '-' := by
        intro r hr hkept
        obtain ⟨k, hk, rfl⟩ := Option.map_eq_some_iff.1 hkept
        obtain ⟨comment, rfl, hcomment, hlast⟩ := ih hk
        refine ⟨comment, rfl, hcomment, ?_⟩
        cases k with
        | nil =>
            obtain ⟨rfl, hhead⟩ := eq_code_of_cut_nil hk
            simpa using hr rfl hhead
        | cons d k => rwa [List.getLast?_cons_cons]
      cases region with
      | code =>
          simp only [beforeLastComment?] at h
          split_ifs at h with hquote hdash hbreak
          · exact step (by simp) h
          · exact step (by simp) h
          · cases h
            simp only [Bool.and_eq_true, decide_eq_true_eq] at hdash
            obtain ⟨rfl, hhead⟩ := hdash
            obtain ⟨comment, rfl⟩ := List.head?_eq_some_iff.1 hhead
            refine ⟨comment, rfl, ?_, by simp⟩
            simpa using hbreak
          · refine step ?_ h
            rintro - hhead rfl
            exact hdash (by simp [hhead])
      | literal =>
          refine step ?_ h
          rintro hr - rfl
          simp at hr
      | comment =>
          refine step ?_ h
          rintro hr - rfl
          simp at hr

theorem exists_cut_of_comment {t : Text} (h : regionAfter .code t = .comment) :
    ∃ kept, beforeLastComment? .code t = some kept := by
  apply Option.ne_none_iff_exists'.1
  intro hnone
  exact (beforeLastComment?_eq_none_iff .code (by simp)).1 hnone h

/-- The comment at the end of a text is cut off where code ends. -/
theorem cut_append {region : Region} {t comment : Text} (hcode : regionAfter region t = .code)
    (hlast : t.getLast? ≠ some '-') (hcomment : '\n' ∉ comment) :
    beforeLastComment? region (t ++ ("--".toList ++ comment)) = some t := by
  induction t generalizing region with
  | nil =>
      obtain rfl : region = .code := by simpa using hcode
      simp [beforeLastComment?, hcomment]
  | cons c t ih =>
      have htail : t.getLast? ≠ some '-' := by
        cases t with
        | nil => simp
        | cons d t => rwa [List.getLast?_cons_cons] at hlast
      have hhead : c = '-' → (t ++ ("--".toList ++ comment)).head? = t.head? := by
        rintro rfl
        apply List.head?_append_of_ne_nil
        rintro rfl
        exact hlast rfl
      cases region with
      | code =>
          have hmark : (c = '-' && (t ++ ("--".toList ++ comment)).head? = some '-') =
              (c = '-' && t.head? = some '-') := by
            by_cases hc : c = '-'
            · simp only [hhead hc]
            · simp [hc]
          simp only [regionAfter] at hcode
          simp only [List.cons_append, beforeLastComment?, hmark]
          split_ifs at hcode with hquote hdash
          · rw [if_pos hquote, ih hcode htail, Option.map_some]
          · have hbreak : '\n' ∈ t := by
              by_contra hnone
              simp [regionAfter_comment_of_notMem hnone] at hcode
            rw [if_neg hquote, if_pos hdash, if_pos (by simp [hbreak]), ih hcode htail,
              Option.map_some]
          · rw [if_neg hquote, if_neg hdash, ih hcode htail, Option.map_some]
      | literal =>
          simp only [regionAfter] at hcode
          simp only [List.cons_append, beforeLastComment?, ih hcode htail, Option.map_some]
      | comment =>
          simp only [regionAfter] at hcode
          simp only [List.cons_append, beforeLastComment?, ih hcode htail, Option.map_some]

/-! ## What is dropped -/

/-- Blanks around semicolons in a row. -/
def IsTerminator (t : Text) : Prop :=
  ∃ before semicolons after : Text, t = before ++ (semicolons ++ after) ∧
    (∀ c ∈ before, isBlank c = true) ∧ (∀ c ∈ semicolons, (c == ';') = true) ∧
    ∀ c ∈ after, isBlank c = true

theorem IsTerminator.padding {t : Text} (h : IsTerminator t) : Padding t := by
  obtain ⟨before, semicolons, after, rfl, hbefore, hsemicolons, hafter⟩ := h
  intro c hc
  simp only [List.mem_append] at hc
  rcases hc with hc | hc | hc
  · simp [isPadding, hbefore c hc]
  · simp [isPadding, hsemicolons c hc]
  · simp [isPadding, hafter c hc]

theorem isTerminator_nil : IsTerminator [] := ⟨[], [], [], rfl, by simp, by simp, by simp⟩

theorem exists_append_trimTerminator (t : Text) :
    ∃ padding, t = trimTerminator t ++ padding ∧ IsTerminator padding := by
  obtain ⟨after, hafter_eq, hafter⟩ := exists_append_dropEndWhile isBlank t
  obtain ⟨semicolons, hsemicolons_eq, hsemicolons⟩ :=
    exists_append_dropEndWhile (· == ';') (Text.trimEnd t)
  obtain ⟨before, hbefore_eq, hbefore⟩ :=
    exists_append_dropEndWhile isBlank (Text.dropEndWhile (· == ';') (Text.trimEnd t))
  refine ⟨before ++ (semicolons ++ after), ?_, before, semicolons, after, rfl, hbefore,
    hsemicolons, hafter⟩
  rw [trimTerminator, Text.trimEnd, ← List.append_assoc, ← hbefore_eq, ← List.append_assoc,
    ← hsemicolons_eq]
  exact hafter_eq

/-- Whether a text ends in neither a blank nor a semicolon. -/
def Firm (t : Text) : Prop := ∀ c, t.getLast? = some c → isBlank c = false ∧ c ≠ ';'

theorem Firm.trimTerminator_append {s : Text} (h : Firm s) (t : Text) :
    trimTerminator (s ++ t) = s ++ trimTerminator t := by
  have hself : ∀ p : Char → Bool, (∀ c, s.getLast? = some c → p c = false) → ∀ t,
      Text.dropEndWhile p (s ++ t) = s ++ Text.dropEndWhile p t := by
    intro p hp t
    rw [Text.dropEndWhile_append]
    split_ifs with hnil
    · rw [hnil, List.append_nil, Text.dropEndWhile_eq_self hp]
    · rfl
  have hblank := hself isBlank fun c hc => (h c hc).1
  have hsemicolon := hself (· == ';') fun c hc => by simpa using (h c hc).2
  simp only [trimTerminator, Text.trimEnd, hblank, hsemicolon]

theorem dropEndWhile_isPrefix_of_append {p : Char → Bool} {s t u : Text} (hu : u <+: s ++ t)
    (ht : ∀ c ∈ t, p c = true) : Text.dropEndWhile p u <+: s := by
  rcases List.prefix_or_prefix_of_prefix hu (List.prefix_append s t) with hshort | ⟨v, rfl⟩
  · exact (Text.dropEndWhile_isPrefix p u).trans hshort
  · have hv : Text.dropEndWhile p v = [] := by
      have hpart : v <+: t := (List.prefix_append_right_inj s).1 hu
      exact List.rdropWhile_eq_nil_iff.2 fun c hc => ht c (hpart.subset hc)
    rw [Text.dropEndWhile_append, if_pos hv]
    exact Text.dropEndWhile_isPrefix p s

theorem IsTerminator.trimTerminator_append {t : Text} (h : IsTerminator t) (s : Text) :
    trimTerminator (s ++ t) <+: s := by
  obtain ⟨before, semicolons, after, rfl, hbefore, hsemicolons, hafter⟩ := h
  rw [← List.append_assoc, ← List.append_assoc]
  have hfirst : Text.trimEnd (s ++ before ++ semicolons ++ after) <+: s ++ before ++ semicolons :=
    dropEndWhile_isPrefix_of_append List.prefix_rfl hafter
  have hsecond := dropEndWhile_isPrefix_of_append hfirst hsemicolons
  exact dropEndWhile_isPrefix_of_append hsecond hbefore

/-- A comment that ends the text, apart from a terminator behind it, leaves nothing behind. -/
theorem dropLastComments_append_comment {t comment rest : Text}
    (hcode : regionAfter .code t = .code) (hlast : t.getLast? ≠ some '-')
    (hcomment : '\n' ∉ comment) (hrest : IsTerminator rest) :
    dropLastComments (trimTerminator (t ++ ("--".toList ++ (comment ++ rest)))) =
      dropLastComments (trimTerminator t) := by
  have hfirm : Firm (t ++ "--".toList) := by
    intro c hc
    obtain rfl : '-' = c := by simpa using hc
    decide
  have hline : '\n' ∉ trimTerminator (comment ++ rest) := fun hmem =>
    hcomment ((hrest.trimTerminator_append comment).subset hmem)
  rw [← List.append_assoc, hfirm.trimTerminator_append, List.append_assoc]
  exact dropLastComments_of_cut (cut_append hcode hlast hline)

/-- What is dropped from a text that ends in code: the text that is kept ends in code as well, and
no mark of a comment is cut in two. -/
theorem exists_append_dropLastComments {t : Text} (hcode : regionAfter .code t = .code) :
    ∃ dropped, t = dropLastComments (trimTerminator t) ++ dropped ∧ Spaced Padding dropped ∧
      regionAfter .code (dropLastComments (trimTerminator t)) = .code ∧
      ((dropLastComments (trimTerminator t)).getLast? = some '-' → dropped.head? ≠ some '-') := by
  induction hn : t.length using Nat.strongRecOn generalizing t with
  | ind n ih =>
      subst hn
      obtain ⟨padding, hsplit, hterminator⟩ := exists_append_trimTerminator t
      have hpadding := hterminator.padding
      generalize trimTerminator t = u at hsplit ⊢
      subst hsplit
      have hhead : padding.head? ≠ some '-' := fun h =>
        (ne_of_isPadding (hpadding _ (List.mem_of_mem_head? h))).2 rfl
      rw [regionAfter_append fun _ => hhead] at hcode
      cases hregion : regionAfter .code u with
      | code =>
          rw [dropLastComments_eq_self (by simp [hregion])]
          exact ⟨padding, rfl, .stretch hpadding, hregion, fun _ => hhead⟩
      | literal =>
          rw [hregion, hpadding.regionAfter (by simp)] at hcode
          cases hcode
      | comment =>
          rw [hregion] at hcode
          have hbreak : '\n' ∈ padding := by
            by_contra hnone
            simp [regionAfter_comment_of_notMem hnone] at hcode
          obtain ⟨front, rest, rfl, hfront⟩ := List.eq_append_cons_of_mem hbreak
          obtain ⟨kept, hcut⟩ := exists_cut_of_comment hregion
          obtain ⟨comment, rfl, hcomment, hlast⟩ := eq_append_of_cut hcut
          obtain ⟨dropped, hdropped, hspaced, hkept, hedge⟩ :=
            ih kept.length (by simp) (regionAfter_of_cut hcut).1 rfl
          rw [dropLastComments_of_cut hcut]
          -- the line break that ended the comment is among the padding behind it
          refine ⟨dropped ++ ("--".toList ++ ((comment ++ front) ++ '\n' :: rest)), ?_,
            .line hspaced ?_ fun c hc => hpadding c (List.mem_append_right _ hc), hkept, ?_⟩
          · rw [← List.append_assoc _ dropped, ← hdropped]
            simp only [List.append_assoc]
          · rw [List.mem_append, not_or]
            exact ⟨hcomment, hfront⟩
          · intro hend
            cases dropped with
            | nil =>
                rw [List.append_nil] at hdropped
                exact absurd (hdropped ▸ hend) hlast
            | cons c dropped => exact hedge hend

theorem exists_append_body {sql : Text} (h : regionAfter .code (Text.trim sql) ≠ .literal) :
    ∃ dropped, Text.trim sql = body sql ++ dropped ∧ Trivia dropped ∧
      regionAfter .code (body sql) = .code ∧
      ((body sql).getLast? = some '-' → dropped.head? ≠ some '-') := by
  rw [body]
  cases hregion : regionAfter .code (Text.trim sql) with
  | code =>
      obtain ⟨dropped, hsplit, hspaced, hkept, hedge⟩ := exists_append_dropLastComments hregion
      exact ⟨dropped, hsplit, .lines hspaced, hkept, hedge⟩
  | literal => exact absurd hregion h
  | comment =>
      obtain ⟨kept, hcut⟩ := exists_cut_of_comment hregion
      obtain ⟨comment, hcomment_eq, hcomment, hlast⟩ := eq_append_of_cut hcut
      have hcode := (regionAfter_of_cut hcut).1
      obtain ⟨dropped, hdropped, hspaced, hkept, hedge⟩ := exists_append_dropLastComments hcode
      rw [hcomment_eq, ← List.append_nil comment,
        dropLastComments_append_comment hcode hlast hcomment isTerminator_nil, List.append_nil]
      refine ⟨dropped ++ ("--".toList ++ comment), ?_, .comment hspaced hcomment, hkept, ?_⟩
      · rw [← List.append_assoc _ dropped, ← hdropped]
      · intro hend
        cases dropped with
        | nil =>
            rw [List.append_nil] at hdropped
            exact absurd (hdropped ▸ hend) hlast
        | cons c dropped => exact hedge hend

/-! ## What is kept -/

/-- A text that ends in a clause, behind the boundary of a word. -/
def EndsIn (t before : Text) (clause : LimitClause) : Prop :=
  ∃ tail, t = before ++ tail ∧ Nonempty (LimitClause.Writing clause tail) ∧
    before.getLast?.any isWord = false

theorem splitLimit?_eq_some_iff {t before : Text} {clause : LimitClause} :
    splitLimit? t = some (before, clause) ↔ EndsIn t before clause := by
  refine ⟨of_splitLimit?, ?_⟩
  rintro ⟨tail, rfl, ⟨w⟩, hedge⟩
  exact splitLimit?_append w hedge

theorem bound_of_endsIn {t before : Text} {clause : LimitClause} (h : EndsIn t before clause)
    (rows : Int) :
    bound t rows = if clause.rows?.any (· ≤ rows) then t
      else before ++ ("LIMIT ".toList ++ Text.ofInt rows ++ clause.offset) := by
  simp only [bound, splitLimit?_eq_some_iff.2 h, List.append_assoc]

/-- What the gate drops from the end of a statement is trivia, and it keeps the rest up to the
clause that bounds the rows.  A clause within the bound is kept as well.  Any other one is written
anew with the bound for its count, and its offset part behind it. -/
theorem gate_keeps_body {sql out : Text} {maxRows : Int} (h : gate sql maxRows = .ok out)
    (hend : regionAfter .code (Text.trim sql) ≠ .literal) :
    (∃ dropped, Text.trim sql = body sql ++ dropped ∧ Trivia dropped ∧
      regionAfter .code (body sql) = .code ∧
      ((body sql).getLast? = some '-' → dropped.head? ≠ some '-')) ∧
    ((∀ before clause, ¬ EndsIn (body sql) before clause) →
      out = body sql ++ " LIMIT ".toList ++ Text.ofInt (clampRows maxRows)) ∧
    ∀ before clause, EndsIn (body sql) before clause →
      ((∃ n, clause.rows? = some n ∧ n ≤ clampRows maxRows) ∧ out = body sql) ∨
      ((∀ n, clause.rows? = some n → clampRows maxRows < n) ∧
        out = before ++ ("LIMIT ".toList ++ Text.ofInt (clampRows maxRows) ++ clause.offset)) := by
  obtain ⟨-, rfl⟩ := gate_eq_ok_iff.1 h
  refine ⟨exists_append_body hend, fun hnone => ?_, fun before clause hclause => ?_⟩
  · have hsplit : splitLimit? (body sql) = none := by
      by_contra hsome
      obtain ⟨⟨before, clause⟩, hfound⟩ := Option.ne_none_iff_exists'.1 hsome
      exact hnone before clause (splitLimit?_eq_some_iff.1 hfound)
    simp [bound, hsplit]
  · rw [bound_of_endsIn hclause]
    cases clause.rows? with
    | none => exact .inr ⟨by simp, rfl⟩
    | some n =>
        by_cases hle : n ≤ clampRows maxRows
        · exact .inl ⟨⟨n, rfl, hle⟩, if_pos (by simpa using hle)⟩
        · refine .inr ⟨?_, if_neg (by simpa using hle)⟩
          intro m hm
          obtain rfl := Option.some.inj hm
          exact not_le.1 hle

theorem gate_keeps_body_offset :
    gate "SELECT bbl FROM lots LIMIT 500 OFFSET 20 ; -- page; two\n".toList 100 =
        .ok "SELECT bbl FROM lots LIMIT 100 OFFSET 20".toList ∧
      ∃ dropped, "SELECT bbl FROM lots LIMIT 500 OFFSET 20 ; -- page; two".toList =
        "SELECT bbl FROM lots LIMIT 500 OFFSET 20".toList ++ dropped ∧ Trivia dropped := by
  have hgate : gate "SELECT bbl FROM lots LIMIT 500 OFFSET 20 ; -- page; two\n".toList 100 =
      .ok "SELECT bbl FROM lots LIMIT 100 OFFSET 20".toList := by cbv
  have htrim : Text.trim "SELECT bbl FROM lots LIMIT 500 OFFSET 20 ; -- page; two\n".toList =
      "SELECT bbl FROM lots LIMIT 500 OFFSET 20 ; -- page; two".toList := by cbv
  have hbody : body "SELECT bbl FROM lots LIMIT 500 OFFSET 20 ; -- page; two\n".toList =
      "SELECT bbl FROM lots LIMIT 500 OFFSET 20".toList := by cbv
  obtain ⟨⟨dropped, hsplit, htrivia, -⟩, -⟩ :=
    gate_keeps_body hgate (by rw [htrim]; decide +kernel)
  rw [htrim, hbody] at hsplit
  exact ⟨hgate, dropped, hsplit, htrivia⟩

/-- A clause that is written anew has its word in capitals. -/
theorem gate_not_keeps_word :
    ¬ ∀ (sql out : Text) (maxRows : Int), gate sql maxRows = .ok out →
      regionAfter .code (Text.trim sql) ≠ .literal →
      ∀ (before tail : Text) (clause : LimitClause) (w : LimitClause.Writing clause tail),
        body sql = before ++ tail → before.getLast?.any isWord = false →
        ∃ number, out = before ++ (w.word ++ (w.gap ++ (number ++ clause.offset))) := by
  intro h
  have hgate : gate "select bbl from lots limit 500".toList 100 =
      .ok "select bbl from lots LIMIT 100".toList := by cbv
  have htrim : Text.trim "select bbl from lots limit 500".toList =
      "select bbl from lots limit 500".toList := by cbv
  have hbody : body "select bbl from lots limit 500".toList =
      "select bbl from lots ".toList ++ "limit 500".toList := by cbv
  let w : LimitClause.Writing ⟨some "500".toList, []⟩ "limit 500".toList :=
    { word := "limit".toList
      gap := [' ']
      number := "500".toList
      eq_append := rfl
      word_folds := by decide
      gap_ne_nil := by simp
      gap_blank := forall_mem_of_all (by decide)
      counts := ⟨rfl, by simp, forall_mem_of_all (by decide)⟩
      isOffset := rfl }
  obtain ⟨number, hout⟩ :=
    h _ _ 100 hgate (by rw [htrim]; decide +kernel) "select bbl from lots ".toList _ _ w hbody rfl
  have hword : some 'L' = some 'l' := congrArg (fun t => t[21]?) hout
  exact absurd hword (by decide)

end LotSearch.Statement
