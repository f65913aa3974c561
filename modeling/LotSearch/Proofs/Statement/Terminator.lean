import LotSearch.Proofs.Statement.Trivia

/-!
# Trivia behind a statement

Trivia behind a statement should not matter to the gate.  Between two comments the blanks and
semicolons are trimmed once, blanks before and behind the semicolons, so all of them go only when
the semicolons stand in a row.  Otherwise a semicolon stays, and the bound is appended to it.
-/

namespace LotSearch.Statement

/-- Trivia in which all the semicolons between two comments stand in a row. -/
abbrev Terminated : Text → Prop := Interspersed IsTerminator

theorem trimTerminator_eq_nil_iff {t : Text} : trimTerminator t = [] ↔ IsTerminator t := by
  constructor
  · intro hnil
    obtain ⟨padding, hsplit, hpadding⟩ := exists_append_trimTerminator t
    rw [hnil, List.nil_append] at hsplit
    exact hsplit ▸ hpadding
  · intro h
    exact List.prefix_nil.1 (h.trimTerminator_append [])

theorem trimTerminator_append_of_ne_nil {t : Text} (h : trimTerminator t ≠ []) (s : Text) :
    trimTerminator (s ++ t) = s ++ trimTerminator t := by
  have hstep : ∀ (p : Char → Bool) {u : Text}, Text.dropEndWhile p u ≠ [] →
      Text.dropEndWhile p (s ++ u) = s ++ Text.dropEndWhile p u := by
    intro p u hu
    rw [Text.dropEndWhile_append, if_neg hu]
  have hnonempty : ∀ (p : Char → Bool) {u : Text}, Text.dropEndWhile p u ≠ [] → u ≠ [] := by
    rintro p u hu rfl
    exact hu rfl
  have hsemicolons : Text.dropEndWhile (· == ';') (Text.dropEndWhile isBlank t) ≠ [] :=
    hnonempty isBlank h
  have hblank : Text.dropEndWhile isBlank t ≠ [] := hnonempty (· == ';') hsemicolons
  simp only [trimTerminator, Text.trimEnd] at h ⊢
  rw [hstep _ hblank, hstep _ hsemicolons, hstep _ h]

/-- What cannot be trimmed of blanks and semicolons ends in a semicolon. -/
theorem Padding.getLast?_trimTerminator {t : Text} (h : Padding t) (hne : trimTerminator t ≠ []) :
    (trimTerminator t).getLast? = some ';' := by
  have hlast := List.getLast?_eq_some_getLast hne
  have hblank := Text.getLast?_dropEndWhile hlast
  have hmark := h _ ((trimTerminator_isPrefix t).subset (List.getLast_mem hne))
  rw [hlast]
  simpa [isPadding, hblank] using hmark

section

variable {s t : Text} (hcode : regionAfter .code s = .code) (hhyphen : s.getLast? ≠ some '-')
  (hfirm : Firm s)

include hcode hhyphen hfirm

theorem dropLastComments_append_of_spaced (h : Spaced IsTerminator t) :
    dropLastComments (trimTerminator (s ++ t)) = s := by
  induction h with
  | stretch h =>
      rw [hfirm.trimTerminator_append, trimTerminator_eq_nil_iff.2 h, List.append_nil]
      exact dropLastComments_eq_self (by simp [hcode])
  | line hfront hcomment h ih =>
      obtain ⟨hcode', hlast⟩ :=
        (hfront.mono fun _ => IsTerminator.padding).regionAfter hcode hhyphen
      rw [← List.append_assoc, dropLastComments_append_comment hcode' hlast hcomment h]
      exact ih

theorem dropLastComments_append_of_terminated (h : Terminated t) :
    dropLastComments (trimTerminator (s ++ t)) = s := by
  cases h with
  | lines h => exact dropLastComments_append_of_spaced hcode hhyphen hfirm h
  | @comment front comment hfront hcomment =>
      obtain ⟨hcode', hlast⟩ :=
        (hfront.mono fun _ => IsTerminator.padding).regionAfter hcode hhyphen
      rw [← List.append_assoc, ← List.append_nil comment,
        dropLastComments_append_comment hcode' hlast hcomment isTerminator_nil]
      exact dropLastComments_append_of_spaced hcode hhyphen hfirm hfront

/-- Trivia goes as a whole, or a semicolon of it stays behind the text. -/
theorem spaced_or_exists_semicolon (h : Spaced Padding t) :
    Spaced IsTerminator t ∨ ∃ rest, dropLastComments (trimTerminator (s ++ t)) = s ++ rest ∧
      rest.getLast? = some ';' := by
  induction h with
  | @stretch t h =>
      by_cases hnil : trimTerminator t = []
      · exact .inl (.stretch (trimTerminator_eq_nil_iff.1 hnil))
      · right
        refine ⟨trimTerminator t, ?_, h.getLast?_trimTerminator hnil⟩
        have hpadding : Padding (trimTerminator t) := fun c hc =>
          h c ((trimTerminator_isPrefix t).subset hc)
        have hend : regionAfter .code (s ++ trimTerminator t) = .code :=
          ((Spaced.stretch hpadding).regionAfter hcode hhyphen).1
        rw [hfirm.trimTerminator_append]
        exact dropLastComments_eq_self (by simp [hend])
  | @line front comment t hfront hcomment h ih =>
      obtain ⟨hcode', hlast⟩ := hfront.regionAfter hcode hhyphen
      by_cases hnil : trimTerminator ('\n' :: t) = []
      · have hterminator := trimTerminator_eq_nil_iff.1 hnil
        refine ih.imp (fun hspaced => .line hspaced hcomment hterminator) ?_
        rintro ⟨rest, hrest, hend⟩
        refine ⟨rest, ?_, hend⟩
        rw [← List.append_assoc, dropLastComments_append_comment hcode' hlast hcomment hterminator]
        exact hrest
      · right
        obtain ⟨u, hu⟩ : ∃ u, trimTerminator ('\n' :: t) = '\n' :: u := by
          obtain ⟨c, u, hu⟩ := List.exists_cons_of_ne_nil hnil
          have hpre := trimTerminator_isPrefix ('\n' :: t)
          rw [hu, List.cons_prefix_cons] at hpre
          exact ⟨u, by rw [hu, hpre.1]⟩
        have hpadding : Padding ('\n' :: u) := fun c hc =>
          h c ((trimTerminator_isPrefix _).subset (hu ▸ hc))
        have hend : regionAfter .code
            (s ++ (front ++ ("--".toList ++ (comment ++ '\n' :: u)))) = .code :=
          ((Spaced.line hfront hcomment hpadding).regionAfter hcode hhyphen).1
        have htrim : trimTerminator (s ++ (front ++ ("--".toList ++ (comment ++ '\n' :: t)))) =
            s ++ (front ++ ("--".toList ++ (comment ++ '\n' :: u))) := by
          have hkept := trimTerminator_append_of_ne_nil hnil
            (s ++ (front ++ ("--".toList ++ comment)))
          rw [hu] at hkept
          simpa only [List.append_assoc] using hkept
        refine ⟨front ++ ("--".toList ++ (comment ++ '\n' :: u)), ?_, ?_⟩
        · rw [htrim]
          apply dropLastComments_eq_self
          rw [hend]
          simp
        · have hsemicolon := h.getLast?_trimTerminator hnil
          rw [hu] at hsemicolon
          rw [← List.append_assoc, ← List.append_assoc,
            List.getLast?_append_of_ne_nil _ (List.cons_ne_nil _ _)]
          exact hsemicolon

theorem terminated_or_exists_semicolon (h : Trivia t) :
    Terminated t ∨ ∃ rest, dropLastComments (trimTerminator (s ++ t)) = s ++ rest ∧
      rest.getLast? = some ';' := by
  cases h with
  | lines h =>
      exact (spaced_or_exists_semicolon hcode hhyphen hfirm h).imp_left .lines
  | @comment front comment hfront hcomment =>
      obtain ⟨hcode', hlast⟩ := hfront.regionAfter hcode hhyphen
      have hcut := dropLastComments_append_comment hcode' hlast hcomment isTerminator_nil
      rw [List.append_nil, List.append_assoc] at hcut
      rw [hcut]
      exact (spaced_or_exists_semicolon hcode hhyphen hfirm hfront).imp_left (.comment · hcomment)

end

/-! ## At the gate -/

theorem body_append {s : Text} (hne : s ≠ []) (hhead : ∀ c, s.head? = some c → isBlank c = false)
    (t : Text) : body (s ++ t) = dropLastComments (trimTerminator (s ++ t)) := by
  have hstart : Text.trimStart (s ++ t) = s ++ t := by
    apply Text.trimStart_eq_self
    rwa [List.head?_append_of_ne_nil _ hne]
  rw [body, Text.trim, hstart, trimTerminator, Text.trimEnd_trimEnd, ← trimTerminator]

/-- No clause ends in a semicolon. -/
theorem bound_of_semicolon {t : Text} (h : t.getLast? = some ';') (rows : Int) :
    bound t rows = t ++ " LIMIT ".toList ++ Text.ofInt rows := by
  rcases bound_cases t rows with ⟨-, hbound⟩ | ⟨before, clause, tail, -, rfl, ⟨w⟩, -, -⟩
  · exact hbound
  · have hne : tail ≠ [] := by
      rw [w.eq_append]
      exact List.append_ne_nil_of_right_ne_nil _ (List.append_ne_nil_of_left_ne_nil w.gap_ne_nil _)
    rw [List.getLast?_append_of_ne_nil _ hne] at h
    exact absurd rfl (LimitClause.ne_of_isClauseChar (w.isClauseChar (List.mem_of_getLast? h))).2.2

/-- Trivia behind a statement does not matter to the gate exactly when all the semicolons between
two comments stand in a row. -/
theorem gate_append_trivia_iff {s t : Text} (hselect : startsWithSelect s = true)
    (htrim : Text.trim s = s) (hsemicolon : s.getLast? ≠ some ';') (hhyphen : s.getLast? ≠ some '-')
    (hcode : regionAfter .code s = .code) (htrivia : Trivia t) (maxRows : Int) :
    gate (s ++ t) maxRows = gate s maxRows ↔ Terminated t := by
  have hhead : ∀ c, s.head? = some c → isBlank c = false := fun c hc =>
    Text.head?_trim (htrim.symm ▸ hc)
  have hne : s ≠ [] := by
    rintro rfl
    cases hselect
  have hfirm : Firm s := by
    intro c hc
    rw [← htrim] at hc
    refine ⟨Text.getLast?_dropEndWhile hc, ?_⟩
    rintro rfl
    exact hsemicolon (htrim ▸ hc)
  have hself : body s = s := body_eq_self hhead hfirm (by simp [hcode])
  have hgate : gate s maxRows = .ok (bound s (clampRows maxRows)) :=
    gate_eq_ok_iff.2 ⟨by rw [hself, hselect], by rw [hself]⟩
  have hbody := body_append hne hhead t
  constructor
  · intro hsame
    rw [hgate, gate_eq_ok_iff, hbody] at hsame
    rcases terminated_or_exists_semicolon hcode hhyphen hfirm htrivia with h | ⟨rest, hrest, hend⟩
    · exact h
    · -- what stays makes the bounded statement too long
      exfalso
      have hlast : (s ++ rest).getLast? = some ';' := by rw [List.getLast?_append, hend]; rfl
      have hlength := congrArg List.length hsame.2
      rw [hrest, bound_of_semicolon hlast] at hlength
      have hle := bound_length_le s (clampRows maxRows)
      have hpos : 0 < rest.length := by
        apply List.length_pos_iff.2
        rintro rfl
        cases hend
      have hword : " LIMIT ".toList.length = 7 := rfl
      simp only [List.length_append] at hlength
      omega
  · intro h
    rw [gate, hbody, dropLastComments_append_of_terminated hcode hhyphen hfirm h, hgate,
      if_pos hselect]

theorem Terminated.trivia {t : Text} (h : Terminated t) : Trivia t := by
  cases h with
  | lines h => exact .lines (h.mono fun _ => IsTerminator.padding)
  | comment hfront hcomment => exact .comment (hfront.mono fun _ => IsTerminator.padding) hcomment

theorem gate_append_trivia_lines :
    gate ("SELECT bbl FROM lots".toList ++ " ;; -- it's; all\n; ".toList) 100 =
      gate "SELECT bbl FROM lots".toList 100 := by
  have hfront : IsTerminator " ;; ".toList :=
    ⟨[' '], [';', ';'], [' '], rfl, forall_mem_of_all (by decide), forall_mem_of_all (by decide),
      forall_mem_of_all (by decide)⟩
  have hrest : IsTerminator "\n; ".toList :=
    ⟨['\n'], [';'], [' '], rfl, forall_mem_of_all (by decide), forall_mem_of_all (by decide),
      forall_mem_of_all (by decide)⟩
  have hcomment : '\n' ∉ " it's; all".toList := by decide
  have hterminated : Terminated " ;; -- it's; all\n; ".toList :=
    .lines (.line (.stretch hfront) hcomment hrest)
  exact (gate_append_trivia_iff (by cbv) (by cbv) (by decide) (by decide) (by decide +kernel)
    hterminated.trivia 100).2 hterminated

/-- A blank between two semicolons keeps the first of them. -/
theorem gate_append_trivia_not_always :
    ¬ ∀ (s t : Text) (maxRows : Int), startsWithSelect s = true → Text.trim s = s →
      s.getLast? ≠ some ';' → s.getLast? ≠ some '-' → regionAfter .code s = .code → Trivia t →
      gate (s ++ t) maxRows = gate s maxRows := by
  intro h
  have hpadding : Padding "; ;".toList := forall_mem_of_all (by decide)
  have hsame := h "SELECT bbl FROM properties".toList "; ;".toList 100 (by cbv) (by cbv)
    (by decide) (by decide) (by decide +kernel) (.lines (.stretch hpadding))
  have hkept : gate ("SELECT bbl FROM properties".toList ++ "; ;".toList) 100 =
      .ok "SELECT bbl FROM properties; LIMIT 100".toList := by cbv
  have hplain : gate "SELECT bbl FROM properties".toList 100 =
      .ok "SELECT bbl FROM properties LIMIT 100".toList := by cbv
  rw [hkept, hplain] at hsame
  have hlength := congrArg List.length (Except.ok.inj hsame)
  simp at hlength

end LotSearch.Statement
