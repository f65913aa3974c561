import LotSearch.Proofs.Statement.Clause
import LotSearch.Proofs.Statement.Region
import LotSearch.Statement.Gate

/-!
# The row bound of a gated statement

A statement leaves the gate with a clause at its end whose count is within the bound, and a
statement with such a clause is not changed by bounding it once more.  The gate looks for comments
before it looks for the clause, so this is the last word on a gated statement unless the clause
that was rewritten stands in a comment.
-/

namespace LotSearch.Statement

open LimitClause

/-- A text that ends in a clause with a count from zero up to a number of rows. -/
structure Bounded (rows : Int) (t : Text) where
  before : Text
  clause : LimitClause
  tail : Text
  eq_append : t = before ++ tail
  writing : Writing clause tail
  edge : before.getLast?.any isWord = false
  count : Int
  rows? : clause.rows? = some count
  nonneg : 0 ≤ count
  le : count ≤ rows

namespace Bounded

variable {rows : Int} {t : Text}

theorem splitLimit? (b : Bounded rows t) :
    Statement.splitLimit? t = some (b.before, b.clause) :=
  (congrArg Statement.splitLimit? b.eq_append).trans (splitLimit?_append b.writing b.edge)

theorem bound_eq_self (b : Bounded rows t) : bound t rows = t := by
  simp [bound, b.splitLimit?, b.rows?, b.le]

theorem limit?_eq (b : Bounded rows t) (h : body t = t) : limit? t = some b.count := by
  simp [limit?, h, b.splitLimit?, b.rows?]

theorem getLast?_firm (b : Bounded rows t) {c : Char} (hc : t.getLast? = some c) :
    isBlank c = false ∧ c ≠ ';' := by
  obtain ⟨d, hd⟩ : ∃ d, b.tail.getLast? = some d := by
    refine ⟨_, List.getLast?_eq_some_getLast ?_⟩
    intro hnil
    have hread := b.writing.read?
    simp [hnil, LimitClause.read?, Text.afterFolded?] at hread
  obtain rfl : d = c := by
    rw [b.eq_append] at hc
    simpa [List.getLast?_append, hd] using hc
  exact ⟨b.writing.isBlank_getLast? hd,
    (ne_of_isClauseChar (b.writing.isClauseChar (List.mem_of_getLast? hd))).2.2⟩

end Bounded

theorem clampRows_pos (n : Int) : 1 ≤ clampRows n := by
  simp only [clampRows, rowCeiling]
  omega

theorem clampRows_le (n : Int) : clampRows n ≤ rowCeiling := by
  simp only [clampRows, rowCeiling]
  omega

/-- A count of any size is read when it fits 64 bits. -/
theorem rows?_ofNat (n : Nat) (offset : Text) :
    LimitClause.rows? ⟨some (Text.ofNat n), offset⟩ = if n ≤ maxInt64 then some (n : Int) else none := by
  have hlow : minInt64 ≤ n := by
    simp only [minInt64]
    omega
  simp [LimitClause.rows?, Text.integerWithin?_ofNat, hlow]

theorem rows?_bounded {rows : Int} (hpos : 1 ≤ rows) (hle : rows ≤ rowCeiling) (offset : Text) :
    LimitClause.rows? ⟨some (Text.ofNat rows.toNat), offset⟩ = some rows := by
  have hcast : ((rows.toNat : Nat) : Int) = rows := Int.toNat_of_nonneg (by omega)
  have hfits : rows ≤ maxInt64 := by
    simp only [rowCeiling, maxInt64] at hle ⊢
    omega
  rw [rows?_ofNat, hcast, if_pos hfits]

/-- Any text in front of a new clause, with any offset part behind it, is bounded. -/
def boundedBy {rows : Int} (hpos : 1 ≤ rows) (hle : rows ≤ rowCeiling) {before offset : Text}
    (hedge : before.getLast?.any isWord = false) (hoffset : isOffset offset = true) :
    Bounded rows (before ++ ("LIMIT ".toList ++ Text.ofInt rows ++ offset)) where
  before := before
  clause := ⟨some (Text.ofNat rows.toNat), offset⟩
  tail := "LIMIT ".toList ++ Text.ofNat rows.toNat ++ offset
  eq_append := by rw [Text.ofInt_of_nonneg (by omega)]
  writing := bounded rows.toNat hoffset
  edge := hedge
  count := rows
  rows? := rows?_bounded hpos hle offset
  nonneg := by omega
  le := by omega

theorem nonneg_of_rows? {clause : LimitClause} {t : Text} (w : Writing clause t) {n : Int}
    (h : clause.rows? = some n) : 0 ≤ n := by
  obtain ⟨count, offset⟩ := clause
  cases count with
  | some digits => exact Text.nonneg_of_integerWithin? w.counts.2.2 h
  | none => simp [LimitClause.rows?] at h

/-! ## What bounding does -/

/-- A statement without a clause gets one, a clause within the bound stays, and any other one is
rewritten in its place. -/
theorem bound_cases (t : Text) (rows : Int) :
    (splitLimit? t = none ∧ bound t rows = t ++ " LIMIT ".toList ++ Text.ofInt rows) ∨
      ∃ before clause tail, splitLimit? t = some (before, clause) ∧ t = before ++ tail ∧
        Nonempty (Writing clause tail) ∧ before.getLast?.any isWord = false ∧
        ((clause.rows?.any (· ≤ rows) = true ∧ bound t rows = t) ∨
          (clause.rows?.any (· ≤ rows) = false ∧
            bound t rows = before ++ ("LIMIT ".toList ++ Text.ofInt rows ++ clause.offset))) := by
  cases hsplit : splitLimit? t with
  | none => exact .inl ⟨rfl, by simp [bound, hsplit]⟩
  | some found =>
      obtain ⟨before, clause⟩ := found
      obtain ⟨tail, htail, hwriting, hedge⟩ := of_splitLimit? hsplit
      refine .inr ⟨before, clause, tail, rfl, htail, hwriting, hedge, ?_⟩
      cases hrows : clause.rows?.any (· ≤ rows) with
      | true => exact .inl ⟨rfl, by simp [bound, hsplit, hrows]⟩
      | false => exact .inr ⟨rfl, by simp [bound, hsplit, hrows]⟩

/-- A clause with any count keeps the smaller one of its count and the bound. -/
theorem bound_clause {before offset : Text} (hedge : before.getLast?.any isWord = false)
    (hoffset : isOffset offset = true) (n : Nat) {rows : Int} (hle : rows ≤ rowCeiling) :
    bound (before ++ ("LIMIT ".toList ++ Text.ofNat n ++ offset)) rows =
      before ++ ("LIMIT ".toList ++ Text.ofInt (min n rows) ++ offset) := by
  have hsplit := splitLimit?_append (bounded n hoffset) hedge
  have hany : (LimitClause.rows? ⟨some (Text.ofNat n), offset⟩).any (· ≤ rows) =
      decide ((n : Int) ≤ rows) := by
    rw [rows?_ofNat]
    split_ifs with hfits
    · rfl
    · simp only [rowCeiling, maxInt64] at hle hfits
      simp only [Option.any_none, Bool.false_eq, decide_eq_false_iff_not]
      omega
  simp only [bound, hsplit, hany, decide_eq_true_eq]
  split_ifs with hn
  · rw [Int.min_eq_left hn]
    rfl
  · rw [Int.min_eq_right (by omega), List.append_assoc, List.append_assoc, List.append_assoc]

theorem bounded_bound (t : Text) {rows : Int} (hpos : 1 ≤ rows) (hle : rows ≤ rowCeiling) :
    Nonempty (Bounded rows (bound t rows)) := by
  rcases bound_cases t rows with ⟨_, hbound⟩ | ⟨before, clause, tail, _, htail, ⟨w⟩, hedge, h⟩
  · have happend : bound t rows = (t ++ [' ']) ++ ("LIMIT ".toList ++ Text.ofInt rows ++ []) := by
      simp [hbound]
    rw [happend]
    have hblank : isWord ' ' = false := by decide
    exact ⟨boundedBy hpos hle (by simp [hblank]) (by rfl)⟩
  · rcases h with ⟨hrows, hbound⟩ | ⟨_, hbound⟩
    · rw [hbound]
      cases hn : clause.rows? with
      | none => simp [hn] at hrows
      | some n =>
          have hn_le : n ≤ rows := by simpa [hn] using hrows
          exact ⟨⟨before, clause, tail, htail, w, hedge, n, hn, nonneg_of_rows? w hn, hn_le⟩⟩
    · rw [hbound]
      exact ⟨boundedBy hpos hle hedge w.isOffset⟩

theorem bound_length_le (t : Text) (rows : Int) :
    (bound t rows).length ≤ t.length + 7 + (Text.ofInt rows).length := by
  rcases bound_cases t rows with ⟨_, hbound⟩ | ⟨before, clause, tail, _, htail, ⟨w⟩, _, h⟩
  · have hword : " LIMIT ".toList.length = 7 := rfl
    rw [hbound, List.length_append, List.length_append]
    omega
  · rcases h with ⟨_, hbound⟩ | ⟨_, hbound⟩
    · rw [hbound]
      omega
    · have hoffset := congrArg List.length w.eq_append
      rw [hbound, htail]
      simp only [List.length_append] at hoffset ⊢
      have hword : "LIMIT ".toList.length = 6 := rfl
      omega

/-! ## The beginning of a gated statement -/

theorem foldAscii_of_toLower {c p : Char} (h : c.toLower = p) (hp : p.toNat < 0x80) :
    foldAscii c = p := by
  have hlong : c ≠ 'ſ' := by
    rintro rfl
    exact absurd (h ▸ hp) (by decide)
  have hkelvin : c ≠ '\u212A' := by
    rintro rfl
    exact absurd (h ▸ hp) (by decide)
  simp [foldAscii, hlong, hkelvin, h]

/-- The clause of a query does not overlap its first word. -/
theorem six_le_length_before {before tail : Text} {clause : LimitClause} (w : Writing clause tail)
    (h : Text.asciiLower ((before ++ tail).take 6) = "select".toList) : 6 ≤ before.length := by
  have hfold : ((before ++ tail).take 6).map foldAscii = "select".toList := by
    rw [← h, Text.asciiLower]
    apply List.map_congr_left
    intro c hc
    have hmem : c.toLower ∈ "select".toList := h ▸ List.mem_map_of_mem hc
    have hascii : ∀ p ∈ "select".toList, p.toNat < 0x80 := forall_mem_of_all (by decide)
    exact foldAscii_of_toLower rfl (hascii _ hmem)
  rw [List.map_take, List.map_append, w.map_foldAscii] at hfold
  by_contra hlength
  have hshort : (before.map foldAscii).length < 6 := by simpa using hlength
  -- the word `LIMIT` agrees with no end of the word `SELECT`
  match hb : before.map foldAscii with
  | [] => simp [hb] at hfold
  | [_] => simp [hb] at hfold
  | [_, _] => simp [hb] at hfold
  | [_, _, _] => simp [hb] at hfold
  | [_, _, _, _] => simp [hb] at hfold
  | [_, _, _, _, _] => simp [hb] at hfold
  | _ :: _ :: _ :: _ :: _ :: _ :: _ =>
      simp only [hb, List.length_cons] at hshort
      omega

theorem length_of_startsWithSelect {t : Text} (h : startsWithSelect t = true)
    (hhead : ∀ c, t.head? = some c → isBlank c = false) :
    Text.asciiLower (t.take 6) = "select".toList ∧ 6 ≤ t.length := by
  have hselect : Text.asciiLower (t.take 6) = "select".toList := by
    simpa [startsWithSelect, Text.trimStart_eq_self hhead] using h
  refine ⟨hselect, ?_⟩
  have hlength := congrArg List.length hselect
  simp [Text.asciiLower] at hlength
  omega

theorem take_bound {t : Text} {rows : Int} (h : Text.asciiLower (t.take 6) = "select".toList)
    (hlength : 6 ≤ t.length) : (bound t rows).take 6 = t.take 6 := by
  rcases bound_cases t rows with ⟨_, hbound⟩ | ⟨before, clause, tail, _, rfl, ⟨w⟩, _, hcase⟩
  · rw [hbound, List.append_assoc, List.take_append_of_le_length hlength]
  · have hbefore := six_le_length_before w h
    rcases hcase with ⟨_, hbound⟩ | ⟨_, hbound⟩
    · rw [hbound]
    · rw [hbound, List.take_append_of_le_length hbefore, List.take_append_of_le_length hbefore]

/-! ## The gate -/

theorem gate_eq_ok_iff {sql out : Text} {maxRows : Int} :
    gate sql maxRows = .ok out ↔
      startsWithSelect (body sql) = true ∧ bound (body sql) (clampRows maxRows) = out := by
  simp only [gate]
  split_ifs with h <;> simp [h]

theorem bounded_gate {sql out : Text} {maxRows : Int} (h : gate sql maxRows = .ok out) :
    Nonempty (Bounded (clampRows maxRows) out) := by
  obtain ⟨_, rfl⟩ := gate_eq_ok_iff.1 h
  exact bounded_bound _ (clampRows_pos maxRows) (clampRows_le maxRows)

theorem head?_gate {sql out : Text} {maxRows : Int} (h : gate sql maxRows = .ok out) :
    (∀ c, out.head? = some c → isBlank c = false) ∧ startsWithSelect out = true := by
  obtain ⟨hselect, rfl⟩ := gate_eq_ok_iff.1 h
  obtain ⟨hword, hlength⟩ := length_of_startsWithSelect hselect fun _ => head?_body
  have htake : (bound (body sql) (clampRows maxRows)).take 6 = (body sql).take 6 :=
    take_bound hword hlength
  have hhead : ∀ c, (bound (body sql) (clampRows maxRows)).head? = some c → isBlank c = false := by
    intro c hc
    have heads := congrArg List.head? htake
    simp only [List.head?_take] at heads
    have hc_body : (body sql).head? = some c := by simpa [hc] using heads.symm
    exact head?_body hc_body
  refine ⟨hhead, ?_⟩
  simp [startsWithSelect, Text.trimStart_eq_self hhead, htake, hword]

/-- The clause of the statement is rewritten although its first word stands in a comment, and the
line break that ended the comment was among the characters that are replaced. -/
def BoundInComment (sql : Text) (maxRows : Int) : Prop :=
  ∃ before clause, splitLimit? (body sql) = some (before, clause) ∧
    clause.rows?.any (· ≤ clampRows maxRows) = false ∧
    regionAfter .code before = .comment ∧ '\n' ∉ clause.offset

theorem regionAfter_append_clause {before tail : Text} {clause : LimitClause}
    (w : Writing clause tail) :
    regionAfter .code (before ++ tail) = .comment ↔
      regionAfter .code before = .comment ∧ '\n' ∉ tail := by
  have hquiet : ∀ c ∈ tail, c ≠ '\'' ∧ c ≠ '-' := by
    intro c hc
    obtain ⟨hquote, hhyphen, _⟩ := ne_of_isClauseChar (w.isClauseChar hc)
    exact ⟨hquote, hhyphen⟩
  have hcut : before.getLast? = some '-' → tail.head? ≠ some '-' := by
    intro _ hhead
    exact (hquiet '-' (List.mem_of_mem_head? hhead)).2 rfl
  rw [regionAfter_append hcut]
  by_cases hbefore : regionAfter .code before = .comment
  · rw [hbefore, regionAfter_comment hquiet]
    split_ifs with hbreak <;> simp [hbreak]
  · rw [regionAfter_of_ne_comment hquiet hbefore]
    simp [hbefore]

/-- A gated statement ends in a comment only because of a clause that is rewritten in one. -/
theorem regionAfter_gate {sql out : Text} {maxRows : Int} (h : gate sql maxRows = .ok out) :
    regionAfter .code out = .comment ↔ BoundInComment sql maxRows := by
  obtain ⟨_, rfl⟩ := gate_eq_ok_iff.1 h
  have hbody := regionAfter_body sql
  have hrows : (clampRows maxRows).toNat = clampRows maxRows :=
    Int.toNat_of_nonneg (by have := clampRows_pos maxRows; omega)
  have hwritten : Text.ofInt (clampRows maxRows) = Text.ofNat (clampRows maxRows).toNat :=
    Text.ofInt_of_nonneg (by have := clampRows_pos maxRows; omega)
  rcases bound_cases (body sql) (clampRows maxRows) with
    ⟨hnone, hbound⟩ | ⟨before, clause, tail, hsplit, _, ⟨w⟩, _, hcase⟩
  · have happend : bound (body sql) (clampRows maxRows) =
        (body sql ++ [' ']) ++ ("LIMIT ".toList ++ Text.ofNat (clampRows maxRows).toNat ++ []) := by
      simp [hbound, hwritten]
    have hblank : regionAfter .code (body sql ++ [' ']) ≠ .comment := by
      rw [regionAfter_append (by simp), regionAfter_of_ne_comment (by simp) hbody]
      exact hbody
    rw [happend, regionAfter_append_clause (bounded _ (by rfl))]
    simp [hblank, BoundInComment, hnone]
  · rcases hcase with ⟨hkept, hbound⟩ | ⟨hrewritten, hbound⟩
    · rw [hbound]
      simp [hbody, BoundInComment, hsplit, hkept]
    · rw [hbound, hwritten, regionAfter_append_clause (bounded _ w.isOffset)]
      have hdigits : ∀ n, '\n' ∉ Text.ofNat n := Text.notMem_ofNat (by decide)
      simp [BoundInComment, hsplit, hrewritten, hdigits]

/-- A gated statement that ends outside comments passes the gate unchanged. -/
theorem gate_eq_self {sql out : Text} {maxRows : Int} (h : gate sql maxRows = .ok out)
    (hend : regionAfter .code out ≠ .comment) : body out = out ∧ gate out maxRows = .ok out := by
  obtain ⟨hhead, hselect⟩ := head?_gate h
  obtain ⟨b⟩ := bounded_gate h
  have hbody : body out = out := body_eq_self hhead (fun _ => b.getLast?_firm) hend
  exact ⟨hbody, gate_eq_ok_iff.2 ⟨by rw [hbody, hselect], by rw [hbody, b.bound_eq_self]⟩⟩

/-- A clause that is rewritten in a comment is the last thing of the gated statement. -/
theorem eq_append_of_boundInComment {sql out : Text} {maxRows : Int}
    (h : gate sql maxRows = .ok out) (hcomment : BoundInComment sql maxRows) :
    ∃ before offset, out = before ++
        ("LIMIT ".toList ++ Text.ofInt (clampRows maxRows) ++ offset) ∧
      regionAfter .code before = .comment ∧ '\n' ∉ offset := by
  obtain ⟨before, clause, hsplit, hrewritten, hcomment, hbreak⟩ := hcomment
  obtain ⟨_, rfl⟩ := gate_eq_ok_iff.1 h
  refine ⟨before, clause.offset, ?_, hcomment, hbreak⟩
  simp [bound, hsplit, hrewritten]

/-- A gated statement that ends in a comment loses it, and more than a new clause brings back. -/
theorem gate_ne_self {sql out : Text} {maxRows : Int} (h : gate sql maxRows = .ok out)
    (hend : regionAfter .code out = .comment) : gate out maxRows ≠ .ok out := by
  intro hself
  obtain ⟨hhead, _⟩ := head?_gate h
  obtain ⟨b⟩ := bounded_gate h
  obtain ⟨before, offset, hout, hcomment, hbreak⟩ :=
    eq_append_of_boundInComment h ((regionAfter_gate h).1 hend)
  have hpos := clampRows_pos maxRows
  have hline : '\n' ∉ "LIMIT ".toList ++ Text.ofInt (clampRows maxRows) ++ offset := by
    have hdigits : ∀ n, '\n' ∉ Text.ofNat n := Text.notMem_ofNat (by decide)
    simp [Text.ofInt_of_nonneg (show 0 ≤ clampRows maxRows by omega), hdigits, hbreak]
  obtain ⟨kept, hcut, hshort⟩ := exists_cut_append hcomment hline
  rw [← hout] at hcut
  -- what is left of the text once its comment is gone is too short to be bounded to it again
  have hbody := body_length_le_of_cut hhead (fun _ => b.getLast?_firm) hcut
  have hlength := bound_length_le (body out) (clampRows maxRows)
  rw [(gate_eq_ok_iff.1 hself).2] at hlength
  have hout_length : before.length + 6 + (Text.ofInt (clampRows maxRows)).length ≤ out.length := by
    have hword : "LIMIT ".toList.length = 6 := rfl
    have hparts := congrArg List.length hout
    simp only [List.length_append] at hparts
    omega
  omega

/-- What leaves the gate ends in a clause with a count within the bound and passes the gate
unchanged, unless a clause is rewritten in a comment: then it fails to. -/
theorem gate_settled_iff {sql out : Text} {maxRows : Int} (h : gate sql maxRows = .ok out) :
    ((∃ n, limit? out = some n ∧ 0 ≤ n ∧ n ≤ clampRows maxRows) ∧
        gate out maxRows = .ok out) ↔ ¬ BoundInComment sql maxRows := by
  rw [← regionAfter_gate h]
  constructor
  · intro hsettled hend
    exact gate_ne_self h hend hsettled.2
  · intro hend
    obtain ⟨hbody, hself⟩ := gate_eq_self h hend
    obtain ⟨b⟩ := bounded_gate h
    exact ⟨⟨b.count, b.limit?_eq hbody, b.nonneg, b.le⟩, hself⟩

theorem gate_settled_five_hundred :
    gate "SELECT 1 LIMIT 500".toList 100 = .ok "SELECT 1 LIMIT 100".toList ∧
      ¬ BoundInComment "SELECT 1 LIMIT 500".toList 100 := by
  have hgate : gate "SELECT 1 LIMIT 500".toList 100 = .ok "SELECT 1 LIMIT 100".toList := by cbv
  have hlimit : limit? "SELECT 1 LIMIT 100".toList = some 100 := by cbv
  have hself : gate "SELECT 1 LIMIT 100".toList 100 = .ok "SELECT 1 LIMIT 100".toList := by cbv
  exact ⟨hgate, (gate_settled_iff hgate).1 ⟨⟨100, hlimit, by decide, by decide⟩, hself⟩⟩

/-- The word `limit` at the end of a comment and the number on the next line read as a clause. -/
theorem gate_not_settled_comment :
    ¬ ∀ (sql out : Text) (maxRows : Int), gate sql maxRows = .ok out →
      (∃ n, limit? out = some n ∧ 0 ≤ n ∧ n ≤ clampRows maxRows) ∧
        gate out maxRows = .ok out := by
  intro h
  obtain ⟨⟨n, hn, _⟩, _⟩ :=
    h "SELECT bbl FROM properties WHERE lotarea > -- the limit\n500".toList
      "SELECT bbl FROM properties WHERE lotarea > -- the LIMIT 100".toList 100 (by cbv)
  have hnone : limit? "SELECT bbl FROM properties WHERE lotarea > -- the LIMIT 100".toList = none :=
    by cbv
  exact Option.some_ne_none n (hn.symm.trans hnone)

end LotSearch.Statement
