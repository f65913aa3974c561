import LotSearch.Opportunity
import LotSearch.Proofs.Request.Statement
import LotSearch.Proofs.Statement.Accepted

/-!
# Criteria at the gate

The statement for an opportunity holds the criteria of an operator, without the blanks around them,
between two parts that are code.  When the criteria end in code the gate finds nothing to cut off,
and only moves the count at the end of the statement to the bound.  A comment on the last line of
the criteria loses the line break that ends it: it runs on to the end of the statement, and the gate
cuts off what follows the criteria with it.
-/

namespace LotSearch

open Statement

/-- Trimming may take the line break behind a comment, but it closes and opens no literal. -/
theorem Statement.regionAfter_trim_ne_literal {t : Text} (h : regionAfter .code t = .code) :
    regionAfter .code (Text.trim t) ≠ .literal := by
  have hplain : ∀ {gap : Text}, (∀ c ∈ gap, isBlank c = true) → ∀ c ∈ gap, c ≠ '\'' ∧ c ≠ '-' :=
    fun hgap c hc => ⟨ne_of_class (hgap c hc) (by decide), ne_of_class (hgap c hc) (by decide)⟩
  obtain ⟨behind, hbehind, hblank⟩ := exists_append_dropEndWhile isBlank (Text.trimStart t)
  have hfront : ∀ c ∈ t.takeWhile isBlank, isBlank c = true := fun _ hc =>
    List.mem_takeWhile_imp hc
  have hsplit : t = t.takeWhile isBlank ++ (Text.trim t ++ behind) := by
    rw [Text.trim, Text.trimEnd, ← hbehind]
    exact List.takeWhile_append_dropWhile.symm
  intro hliteral
  rw [hsplit, regionAfter_append, regionAfter_of_ne_comment (hplain hfront) (by simp),
    regionAfter_append, hliteral, regionAfter_of_ne_comment (hplain hblank) (by simp)] at h
  · cases h
  · exact fun _ hhead => absurd rfl (hplain hblank _ (List.mem_of_mem_head? hhead)).2
  · exact fun hlast => absurd rfl (hplain hfront _ (List.mem_of_getLast? hlast)).2

namespace OpportunityType

/-! ## The parts of a statement -/

/-- What stands before the criteria. -/
def opening : Text := Lots.baseSelect ++ " WHERE (".toList

/-- What stands behind the criteria, up to the bound: the borough, if there is one, and the
order. -/
def closing (column : String) (borough : Option Borough) : Text :=
  [')'] ++ (match borough with
      | some b => " AND ".toList ++ boroughCondition b
      | none => [])
    ++ " ORDER BY ".toList ++ column.toList ++ " DESC NULLS LAST".toList

/-- The statement up to the clause that bounds its rows. -/
def unbounded (o : OpportunityType) (borough : Option Borough) : Text :=
  opening ++ (Text.trim o.criteria ++ closing (sortColumn o.name) borough)

theorem statement_eq (o : OpportunityType) (borough : Option Borough) :
    o.statement borough =
      o.unbounded borough ++ (" LIMIT ".toList ++ Text.ofInt rowCeiling) := by
  cases borough <;> simp [statement, unbounded, opening, closing]

/-- The columns and metrics by which lots are ordered. -/
def sortColumns : List String := ["lotarea", "development_potential", "value_ratio", "assesstot"]

theorem sortColumn_mem (name : Text) : sortColumn name ∈ sortColumns := by
  simp only [sortColumn]
  split_ifs <;> simp [sortColumns]

theorem harmless_closing (name : Text) (borough : Option Borough) :
    Harmless (closing (sortColumn name) borough) := by
  have hcolumn : ∀ column ∈ sortColumns, Harmless column.toList := by decide
  have hborough : Harmless (match borough with
      | some b => " AND ".toList ++ boroughCondition b
      | none => []) := by
    rcases borough with _ | b
    · exact .nil
    · cases b <;> decide
  have hparenthesis : Harmless [')'] := by decide
  exact (((hparenthesis.append hborough).append (by decide)).append
    (hcolumn _ (sortColumn_mem name))).append (by decide)

theorem regionAfter_opening (t : Text) :
    regionAfter .code (opening ++ t) = regionAfter .code t := by
  have hwhere : Harmless " WHERE (".toList := by decide
  have hlast : opening.getLast? = some '(' := List.getLast?_append_of_ne_nil _ (by simp)
  rw [regionAfter_append (by simp [hlast]), opening,
    (harmless_baseSelect.append hwhere).regionAfter_code]

theorem head?_opening (t : Text) : (opening ++ t).head? = some 'S' := by
  obtain ⟨columns, hbase⟩ := select_baseSelect
  simp [opening, hbase]

variable {o : OpportunityType}

theorem head?_unbounded {borough : Option Borough} (t : Text) {c : Char}
    (hc : (o.unbounded borough ++ t).head? = some c) : isBlank c = false := by
  rw [unbounded, List.append_assoc, head?_opening] at hc
  obtain rfl := Option.some.inj hc
  decide

theorem startsWithSelect_unbounded (o : OpportunityType) (borough : Option Borough) :
    startsWithSelect (o.unbounded borough) = true := by
  obtain ⟨columns, hbase⟩ := select_baseSelect
  refine startsWithSelect_iff.2 ⟨"SELECT".toList, [' '] ++ columns ++ " WHERE (".toList ++
    (Text.trim o.criteria ++ closing (sortColumn o.name) borough), ?_, by decide⟩
  rw [Text.trimStart_eq_self fun c hc => head?_unbounded [] (by rwa [List.append_nil])]
  simp only [unbounded, opening, hbase]
  rfl

/-! ## At the gate -/

theorem gate_statement (h : regionAfter .code (Text.trim o.criteria) = .code)
    (borough : Option Borough) (maxRows : Int) :
    gate (o.statement borough) maxRows =
      .ok (o.unbounded borough ++ (" LIMIT ".toList ++ Text.ofInt (clampRows maxRows))) := by
  have hend : regionAfter .code (o.unbounded borough) ≠ .comment := by
    rw [unbounded, regionAfter_opening, regionAfter_append (by simp [closing]), h,
      (harmless_closing o.name borough).regionAfter_code]
    simp
  have hhead : ∀ c, (o.unbounded borough).head? = some c → isBlank c = false := fun c hc =>
    head?_unbounded [] (by rwa [List.append_nil])
  have hgate : gate (o.unbounded borough ++ (" LIMIT ".toList ++ Text.ofNat 100 ++ [])) maxRows =
      .ok _ :=
    gate_append_clause (startsWithSelect_unbounded o borough) hhead hend rfl 100 maxRows
  have hle : clampRows maxRows ≤ ((100 : Nat) : Int) := clampRows_le maxRows
  rw [List.append_nil, List.append_nil, Int.min_eq_right hle] at hgate
  rw [statement_eq]
  exact hgate

theorem getLast?_statement {borough : Option Borough} {c : Char}
    (hc : (o.statement borough).getLast? = some c) : isBlank c = false ∧ c ≠ ';' := by
  rw [statement_eq, List.getLast?_append_of_ne_nil _ (by simp)] at hc
  obtain rfl : '0' = c := Option.some.inj hc
  decide

theorem newline_notMem_end (o : OpportunityType) (borough : Option Borough) :
    '\n' ∉ closing (sortColumn o.name) borough ++ (" LIMIT ".toList ++ Text.ofInt rowCeiling) := by
  have hbound : '\n' ∉ " LIMIT ".toList ++ Text.ofInt rowCeiling := by decide
  rw [List.mem_append, not_or]
  exact ⟨(harmless_closing o.name borough).notMem '\n' (by decide), hbound⟩

theorem statement_eq_append (o : OpportunityType) (borough : Option Borough) :
    o.statement borough = opening ++ Text.trim o.criteria ++
      (closing (sortColumn o.name) borough ++ (" LIMIT ".toList ++ Text.ofInt rowCeiling)) := by
  simp only [statement_eq, unbounded, List.append_assoc]

/-- A comment at the end of the criteria takes everything behind the criteria with it. -/
theorem body_statement_of_comment {kept comment : Text}
    (htrim : Text.trim o.criteria = kept ++ ("--".toList ++ comment))
    (hcode : regionAfter .code kept = .code) (hlast : (opening ++ kept).getLast? ≠ some '-')
    (hcomment : '\n' ∉ comment) (borough : Option Borough) :
    body (o.statement borough) = dropLastComments (trimTerminator (opening ++ kept)) := by
  have hself : Text.trim (o.statement borough) = o.statement borough :=
    Text.trim_eq_self (fun c hc => head?_unbounded _ (by rwa [← statement_eq]))
      fun c hc => (getLast?_statement hc).1
  have hline : '\n' ∉ comment ++ (closing (sortColumn o.name) borough ++
      (" LIMIT ".toList ++ Text.ofInt rowCeiling)) := by
    rw [List.mem_append, not_or]
    exact ⟨hcomment, newline_notMem_end o borough⟩
  have hdropped := dropLastComments_append_comment ((regionAfter_opening _).trans hcode) hlast hline
    isTerminator_nil
  rw [body, hself, statement_eq_append, htrim, ← hdropped]
  simp only [List.append_assoc, List.append_nil]

/-- With the comment at the end of the criteria more is cut off than the bound brings back. -/
theorem gate_statement_ne (h : regionAfter .code (Text.trim o.criteria) = .comment)
    (borough : Option Borough) (maxRows : Int) :
    gate (o.statement borough) maxRows ≠
      .ok (o.unbounded borough ++ (" LIMIT ".toList ++ Text.ofInt (clampRows maxRows))) := by
  intro hgate
  obtain ⟨kept, hcut, hshort⟩ :=
    exists_cut_append ((regionAfter_opening _).trans h) (newline_notMem_end o borough)
  rw [← statement_eq_append] at hcut
  have hbody := body_length_le_of_cut
    (fun c hc => head?_unbounded _ (by rwa [← statement_eq])) (fun _ => getLast?_statement) hcut
  have hlength := bound_length_le (body (o.statement borough)) (clampRows maxRows)
  rw [(gate_eq_ok_iff.1 hgate).2] at hlength
  have hword : " LIMIT ".toList.length = 7 := rfl
  simp only [unbounded, List.length_append] at hlength hshort
  omega

/-- Criteria that close their literals and end their comments leave the gate whole, together with
the borough and the order, exactly when no comment stands at their trimmed end. -/
theorem gate_statement_iff (h : regionAfter .code o.criteria = .code) (borough : Option Borough)
    (maxRows : Int) :
    o.statement borough = o.unbounded borough ++ (" LIMIT ".toList ++ Text.ofInt rowCeiling) ∧
      (gate (o.statement borough) maxRows =
          .ok (o.unbounded borough ++ (" LIMIT ".toList ++ Text.ofInt (clampRows maxRows))) ↔
        regionAfter .code (Text.trim o.criteria) ≠ .comment) := by
  refine ⟨statement_eq o borough, fun hgate hcomment => ?_, fun hcomment => ?_⟩
  · exact gate_statement_ne hcomment borough maxRows hgate
  · apply gate_statement
    cases hregion : regionAfter .code (Text.trim o.criteria) with
    | code => rfl
    | literal => exact absurd hregion (regionAfter_trim_ne_literal h)
    | comment => exact absurd hregion hcomment

def largeLots : OpportunityType where
  id := "large".toList
  name := "Large vacant lots".toList
  description := none
  criteria := " lotarea > 5000 -- the owner's limit 5\nAND is_vacant = true\n".toList

theorem gate_statement_largeLots :
    gate (largeLots.statement (some .brooklyn)) 20 =
      .ok (largeLots.unbounded (some .brooklyn) ++ " LIMIT 20".toList) := by
  have hend : regionAfter .code largeLots.criteria = .code :=
    Text.of_literal (p := (regionAfter .code · = .code)) (by decide)
  have htrimmed : regionAfter .code (Text.trim largeLots.criteria) ≠ .comment :=
    Text.of_literal (p := fun t => regionAfter .code (Text.trim t) ≠ .comment) (by decide)
  exact (gate_statement_iff hend (some .brooklyn) 20).2.2 htrimmed

/-- The line break that ends its comment is the last character. -/
def notedLots : OpportunityType :=
  { largeLots with criteria := "lotarea > 5000 -- large lots\n".toList }

theorem not_gate_statement_notedLots :
    regionAfter .code notedLots.criteria = .code ∧
      body (notedLots.statement none) = opening ++ "lotarea > 5000".toList ∧
      gate (notedLots.statement none) 100 ≠
        .ok (notedLots.unbounded none ++ " LIMIT 100".toList) := by
  have htrim : Text.trim notedLots.criteria =
      "lotarea > 5000 ".toList ++ ("--".toList ++ " large lots".toList) :=
    Text.of_literal (p := fun t => Text.trim t = _) rfl
  have hend : regionAfter .code notedLots.criteria = .code :=
    Text.of_literal (p := (regionAfter .code · = .code)) (by decide)
  have hcomment : regionAfter .code (Text.trim notedLots.criteria) = .comment :=
    Text.of_literal (p := fun t => regionAfter .code (Text.trim t) = .comment) (by decide)
  have hlast : (opening ++ "lotarea > 5000 ".toList).getLast? ≠ some '-' := by
    rw [List.getLast?_append_of_ne_nil _ (by simp)]
    decide
  have htrimmed : trimTerminator "lotarea > 5000 ".toList = "lotarea > 5000".toList := by cbv
  have hbody := body_statement_of_comment htrim (by decide) hlast (by decide) none
  have hne : trimTerminator "lotarea > 5000 ".toList ≠ [] := by
    rw [htrimmed]
    decide
  rw [trimTerminator_append_of_ne_nil hne, htrimmed, dropLastComments_eq_self] at hbody
  · exact ⟨hend, hbody, gate_statement_ne hcomment none 100⟩
  · rw [regionAfter_opening]
    decide

end OpportunityType

end LotSearch
