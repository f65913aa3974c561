import LotSearch.Proofs.Statement.Quiet
import LotSearch.Proofs.Statement.RowBound
import LotSearch.Proofs.Statement.Zone

/-!
# Wrapped statements

A gated statement is executed inside another query, whose end follows it on the same line.  Its
row bound and the end of the query around it take effect only where the database reads them as
code.  That depends on the place where the clause of the statement begins.
-/

namespace LotSearch.Statement

open LimitClause

/-! ## Texts in code -/

/-- The characters of `w`, standing behind `u`, belong to no literal, identifier or comment. -/
def InCode (u w : Text) : Prop := ∀ x y, w = x ++ y → y ≠ [] → zoneAfter (u ++ x) = .code

theorem Zone.after_code_of_chain {w : Text} (hquotes : ∀ c ∈ w, c ≠ '\'' ∧ c ≠ '"')
    (hchain : w.IsChain NoMarker) {hyphen : Bool} (hedge : hyphen = true → w.head? ≠ some '-') :
    after hyphen .code w = .code := by
  induction w generalizing hyphen with
  | nil => rfl
  | cons c w ih =>
      obtain ⟨⟨hquote, hdouble⟩, hquotes⟩ := List.forall_mem_cons.1 hquotes
      obtain ⟨hnext, hchain⟩ := List.isChain_cons.1 hchain
      have hmark : ¬ (c = '-' ∧ hyphen = true) := by
        rintro ⟨rfl, hhyphen⟩
        exact hedge hhyphen rfl
      have hcode : Zone.next hyphen c .code = .code := by
        simp [Zone.next, hquote, hdouble, hmark]
      rw [after, hcode]
      apply ih hquotes hchain
      intro hc hhead
      exact hnext '-' hhead (by simpa using hc) rfl

theorem inCode_iff {u w : Text} (hne : w ≠ []) (hquotes : ∀ c ∈ w, c ≠ '\'' ∧ c ≠ '"')
    (hchain : w.IsChain NoMarker) (hhead : w.head? ≠ some '-') :
    InCode u w ↔ zoneAfter u = .code := by
  constructor
  · intro h
    simpa using h [] w rfl hne
  · rintro hu x y rfl -
    rw [zoneAfter_append, hu]
    apply Zone.after_code_of_chain fun c hc => hquotes c (List.mem_append_left _ hc)
    · exact (List.isChain_append.1 hchain).1
    · intro _ hx
      apply hhead
      rw [List.head?_append, hx]
      rfl

/-! ## The query around a statement -/

def wrapOpening : Text := "SELECT to_jsonb(q) AS result FROM (".toList

def wrapClosing (maxRows : Int) : Text := ") AS q LIMIT ".toList ++ Text.ofInt maxRows

theorem asJson_gate {sql out : Text} {maxRows : Int} (h : gate sql maxRows = .ok out) :
    asJson out maxRows = wrapOpening ++ out ++ wrapClosing maxRows := by
  obtain ⟨hhead, -⟩ := head?_gate h
  obtain ⟨b⟩ := bounded_gate h
  have hblank : ∀ c, out.getLast? = some c → isBlank c = false := fun _ hc =>
    (b.getLast?_firm hc).1
  have htrim : Text.trim out = out := Text.trim_eq_self hhead hblank
  have hsemicolon : Text.dropEndWhile (· == ';') out = out :=
    Text.dropEndWhile_eq_self fun c hc => by simpa using (b.getLast?_firm hc).2
  have hend : Text.trimEnd out = out := Text.dropEndWhile_eq_self hblank
  have hunfold : asJson out maxRows =
      wrapOpening ++ Text.trimEnd (Text.dropEndWhile (· == ';') (Text.trim out)) ++
        ") AS q LIMIT ".toList ++ Text.ofInt maxRows := rfl
  rw [hunfold, htrim, hsemicolon, hend]
  exact List.append_assoc _ _ _

theorem zoneAfter_wrapOpening (t : Text) : zoneAfter (wrapOpening ++ t) = zoneAfter t := by
  rw [zoneAfter_append]
  rfl

theorem quiet_wrapClosing (maxRows : Int) :
    Quiet (wrapClosing maxRows) ∧ ∀ c ∈ wrapClosing maxRows, c ≠ '"' := by
  have hwords : ∀ c ∈ ") AS q LIMIT ".toList, c ≠ '\'' ∧ c ≠ '-' := forall_mem_of_all (by decide)
  have hdouble : ∀ c ∈ ") AS q LIMIT ".toList, c ≠ '"' := forall_mem_of_all (by decide)
  refine ⟨(Quiet.of_plain (by decide) hwords).append (Text.quiet_ofInt maxRows).1, ?_⟩
  have hnumber : '"' ∉ Text.ofInt maxRows := Text.notMem_ofInt (by decide) (by decide) maxRows
  intro c hc
  exact (List.mem_append.1 hc).elim (hdouble c) fun hc => ne_of_mem_of_not_mem hc hnumber

/-- The clause that ends a gated statement and the end of the query around it are in code. -/
def BoundStands (out : Text) (maxRows : Int) : Prop :=
  ∃ before clause tail, splitLimit? out = some (before, clause) ∧ out = before ++ tail ∧
    InCode (wrapOpening ++ before) (tail ++ wrapClosing maxRows)

theorem boundStands_append_iff {before tail : Text} {clause : LimitClause}
    (w : Writing clause tail) (hedge : before.getLast?.any isWord = false) (maxRows : Int) :
    BoundStands (before ++ tail) maxRows ↔ zoneAfter before = .code := by
  have hquiet : ∀ c ∈ tail, c ≠ '\'' ∧ c ≠ '-' := by
    intro c hc
    obtain ⟨hquote, hhyphen, _⟩ := ne_of_isClauseChar (w.isClauseChar hc)
    exact ⟨hquote, hhyphen⟩
  have htail : tail ≠ [] := by
    intro hnil
    have hread := w.read?
    simp [hnil, LimitClause.read?, Text.afterFolded?] at hread
  obtain ⟨hclosing, hclosing_double⟩ := quiet_wrapClosing maxRows
  have hboth : Quiet (tail ++ wrapClosing maxRows) := (Quiet.of_plain htail hquiet).append hclosing
  have hquotes : ∀ c ∈ tail ++ wrapClosing maxRows, c ≠ '\'' ∧ c ≠ '"' := by
    intro c hc
    refine ⟨fun hquote => hboth.quote_notMem (hquote ▸ hc), ?_⟩
    rcases List.mem_append.1 hc with hc | hc
    · exact ne_of_class (w.isClauseChar hc) (by decide)
    · exact hclosing_double c hc
  have hhead : (tail ++ wrapClosing maxRows).head? ≠ some '-' := by
    rw [List.head?_append_of_ne_nil _ htail]
    intro hhead
    exact (hquiet _ (List.mem_of_mem_head? hhead)).2 rfl
  have hcode := inCode_iff (u := wrapOpening ++ before) hboth.ne_nil hquotes hboth.chain hhead
  rw [zoneAfter_wrapOpening] at hcode
  have hsplit := splitLimit?_append w hedge
  constructor
  · rintro ⟨before', clause', tail', hsplit', happend, hin⟩
    obtain ⟨rfl, rfl⟩ : before = before' ∧ clause = clause' := by simpa [hsplit] using hsplit'
    obtain rfl : tail = tail' := List.append_cancel_left happend
    exact hcode.1 hin
  · intro hzone
    exact ⟨before, clause, tail, hsplit, rfl, hcode.2 hzone⟩

/-! ## Where the clause begins -/

/-- What stands before the clause that ends a statement, or the statement without one. -/
def stem (t : Text) : Text := ((splitLimit? t).map Prod.fst).getD t

theorem boundStands_iff {sql out : Text} {maxRows : Int} (h : gate sql maxRows = .ok out) :
    BoundStands out maxRows ↔ zoneAfter (stem (body sql)) = .code := by
  obtain ⟨-, rfl⟩ := gate_eq_ok_iff.1 h
  have hpos := clampRows_pos maxRows
  have hwritten : Text.ofInt (clampRows maxRows) = Text.ofNat (clampRows maxRows).toNat :=
    Text.ofInt_of_nonneg (by omega)
  rcases bound_cases (body sql) (clampRows maxRows) with
    ⟨hnone, hbound⟩ | ⟨before, clause, tail, hsplit, htail, ⟨w⟩, hedge, hcase⟩
  · have happend : bound (body sql) (clampRows maxRows) =
        (body sql ++ [' ']) ++ ("LIMIT ".toList ++ Text.ofNat (clampRows maxRows).toNat ++ []) := by
      simp [hbound, hwritten]
    have hblank : isWord ' ' = false := by decide
    have hzone : zoneAfter (body sql ++ [' ']) = .code ↔ zoneAfter (body sql) = .code := by
      rw [zoneAfter_concat]
      cases zoneAfter (body sql) <;> simp [Zone.next]
    rw [happend, boundStands_append_iff (bounded _ (by rfl)) (by simp [hblank]), hzone, stem, hnone]
    rfl
  · have hstem : stem (body sql) = before := by rw [stem, hsplit]; rfl
    rw [hstem]
    rcases hcase with ⟨-, hbound⟩ | ⟨-, hbound⟩
    · rw [hbound, htail]
      exact boundStands_append_iff w hedge maxRows
    · rw [hbound, hwritten]
      exact boundStands_append_iff (bounded _ w.isOffset) hedge maxRows

def ClauseInComment (sql : Text) : Prop :=
  ∃ before clause, splitLimit? (body sql) = some (before, clause) ∧ zoneAfter before = .comment

theorem zoneAfter_stem_iff {sql : Text} (hplain : PlainIdentifiers sql) (hend : EndsOutside sql) :
    zoneAfter (stem (body sql)) = .code ↔ ¬ ClauseInComment sql := by
  obtain ⟨-, hbody⟩ := zoneAfter_body hplain hend
  cases hsplit : splitLimit? (body sql) with
  | none =>
      have hstem : stem (body sql) = body sql := by rw [stem, hsplit]; rfl
      rw [hstem]
      refine iff_of_true hbody ?_
      rintro ⟨before, clause, hsome, -⟩
      rw [hsplit] at hsome
      cases hsome
  | some found =>
      obtain ⟨before, clause⟩ := found
      obtain ⟨tail, htail, ⟨w⟩, -⟩ := of_splitLimit? hsplit
      have hstem : stem (body sql) = before := by rw [stem, hsplit]; rfl
      have hbefore : EndsOutside before := by
        have hboth : EndsOutside (before ++ tail) := .inl (htail ▸ hbody)
        apply hboth.of_append
        intro c hc
        exact ⟨ne_of_class (w.isClauseChar hc) (by decide),
          ne_of_class (w.isClauseChar hc) (by decide)⟩
      have hclause : ClauseInComment sql ↔ zoneAfter before = .comment := by
        simp [ClauseInComment, hsplit]
      rw [hstem, hclause]
      rcases hbefore with hzone | hzone <;> simp [hzone]

/-- A gated statement is wrapped as it is.  Its bound stands when the statement is in code where
the clause begins; with plain identifiers, when that is not in a comment. -/
theorem asJson_boundStands_iff {sql out : Text} {maxRows : Int} (h : gate sql maxRows = .ok out)
    (hend : EndsOutside sql) :
    asJson out maxRows = wrapOpening ++ out ++ wrapClosing maxRows ∧
      (BoundStands out maxRows ↔ zoneAfter (stem (body sql)) = .code) ∧
      (PlainIdentifiers sql → (BoundStands out maxRows ↔ ¬ ClauseInComment sql)) := by
  refine ⟨asJson_gate h, boundStands_iff h, fun hplain => ?_⟩
  rw [boundStands_iff h]
  exact zoneAfter_stem_iff hplain hend

theorem boundStands_lot_id :
    gate "SELECT bbl AS \"lot id\" FROM properties -- note".toList 100 =
        .ok "SELECT bbl AS \"lot id\" FROM properties LIMIT 100".toList ∧
      EndsOutside "SELECT bbl AS \"lot id\" FROM properties -- note".toList ∧
      PlainIdentifiers "SELECT bbl AS \"lot id\" FROM properties -- note".toList ∧
      BoundStands "SELECT bbl AS \"lot id\" FROM properties LIMIT 100".toList 100 := by
  have hgate : gate "SELECT bbl AS \"lot id\" FROM properties -- note".toList 100 =
      .ok "SELECT bbl AS \"lot id\" FROM properties LIMIT 100".toList := by cbv
  have hend : EndsOutside "SELECT bbl AS \"lot id\" FROM properties -- note".toList :=
    .inr (by decide)
  have hplain : PlainIdentifiers "SELECT bbl AS \"lot id\" FROM properties -- note".toList :=
    plainIdentifiers_of_forall_le (by decide +kernel)
  have hnone : splitLimit? (body "SELECT bbl AS \"lot id\" FROM properties -- note".toList) =
      none := by cbv
  refine ⟨hgate, hend, hplain, ((asJson_boundStands_iff hgate hend).2.2 hplain).2 ?_⟩
  rintro ⟨before, clause, hsome, -⟩
  rw [hnone] at hsome
  cases hsome

/-- A single quote in an identifier hides the comment from the gate, and the bound is appended to
the comment. -/
theorem not_boundStands_quote :
    gate "SELECT bbl AS \"owner's lot\" FROM properties -- note".toList 100 =
        .ok "SELECT bbl AS \"owner's lot\" FROM properties -- note LIMIT 100".toList ∧
      EndsOutside "SELECT bbl AS \"owner's lot\" FROM properties -- note".toList ∧
      ¬ BoundStands "SELECT bbl AS \"owner's lot\" FROM properties -- note LIMIT 100".toList
        100 := by
  have hgate : gate "SELECT bbl AS \"owner's lot\" FROM properties -- note".toList 100 =
      .ok "SELECT bbl AS \"owner's lot\" FROM properties -- note LIMIT 100".toList := by cbv
  have hzone : zoneAfter
      (stem (body "SELECT bbl AS \"owner's lot\" FROM properties -- note".toList)) =
        .comment := by cbv
  refine ⟨hgate, .inr (by decide), fun hstands => ?_⟩
  rw [boundStands_iff hgate, hzone] at hstands
  cases hstands

end LotSearch.Statement
