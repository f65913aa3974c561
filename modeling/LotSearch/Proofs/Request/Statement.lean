import LotSearch.Proofs.Request.Conditions
import LotSearch.Proofs.Statement.RowBound
import LotSearch.Request.Understood

/-!
# The statement for a request

A request that is understood by rules becomes a statement of one fixed form, which is harmless
whatever the request says.  The gate finds nothing to cut off and only moves the count at the end
of the statement to the bound.
-/

namespace LotSearch

open Statement

/-! ## The form of a statement -/

/-- The orders of the lots that a kind of property may ask for. -/
def orderKeys : List String :=
  ["development_potential DESC NULLS LAST", "value_ratio DESC NULLS LAST", "yearbuilt ASC",
    "lotarea DESC NULLS LAST"]

/-- No order, or one of the fixed orders behind its words. -/
def IsOrderClause (t : Text) : Prop :=
  t = [] ∨ ∃ key ∈ orderKeys, t = " ORDER BY ".toList ++ key.toList

def whereClause (conditions : List Text) : Text :=
  if conditions.isEmpty then [] else " WHERE ".toList ++ Text.join " AND ".toList conditions

theorem whereClause_append (front back : List Text) (condition : Text) :
    whereClause (front ++ condition :: back) =
      " WHERE ".toList ++ front.flatMap (· ++ " AND ".toList) ++ condition ++
        back.flatMap (" AND ".toList ++ ·) := by
  have hjoin : ∀ (back : List Text) (piece : Text), Text.join " AND ".toList (piece :: back) =
      piece ++ back.flatMap (" AND ".toList ++ ·) := by
    intro back
    induction back with
    | nil => exact fun piece => (List.append_nil piece).symm
    | cons next back ih =>
        intro piece
        rw [Text.join_cons_cons, ih, List.flatMap_cons]
        simp only [List.append_assoc]
  have hfront : ∀ front : List Text,
      Text.join " AND ".toList (front ++ condition :: back) =
        front.flatMap (· ++ " AND ".toList) ++ Text.join " AND ".toList (condition :: back) := by
    intro front
    induction front with
    | nil => rfl
    | cons piece front ih =>
        obtain ⟨next, rest, hcons⟩ : ∃ next rest, front ++ condition :: back = next :: rest :=
          List.exists_cons_of_ne_nil (by simp)
        rw [List.cons_append, hcons, Text.join_cons_cons, ← hcons, ih, List.flatMap_cons]
        simp only [List.append_assoc]
  rw [whereClause, if_neg (by simp), hfront, hjoin]
  simp only [List.append_assoc]

theorem whereClause_cons (condition : Text) (others : List Text) :
    whereClause (condition :: others) =
      " WHERE ".toList ++ (condition ++ others.flatMap (" AND ".toList ++ ·)) := by
  have happend := whereClause_append [] others condition
  rwa [List.nil_append, List.flatMap_nil, List.append_nil, List.append_assoc] at happend

/-- The common query, then conditions chosen from their forms, then perhaps an order, and a count
of rows. -/
def IsSearchStatement (sql : Text) : Prop :=
  ∃ (conditions : List Text) (order : Text) (count : Nat),
    Chosen conditionForms conditions ∧ IsOrderClause order ∧ (1 ≤ count ∧ count ≤ 100) ∧
      sql = Lots.baseSelect ++ whereClause conditions ++ order ++ " LIMIT ".toList ++
        Text.ofNat count

theorem harmless_columnList : Harmless Lots.columnList := by
  have hnames : ∀ c ∈ Lots.columns, Harmless c.name.toList := by
    simp only [Lots.columns, List.forall_mem_cons]
    repeat' first
      | exact List.forall_mem_nil _
      | refine ⟨Text.of_literal (p := Harmless) (by decide), ?_⟩
  exact .join (by decide) (List.forall_mem_map.2 hnames)

theorem harmless_metricList : Harmless Lots.metricList := by
  have hmetrics : ∀ m ∈ Lots.metrics, Harmless m.sql.toList ∧ Harmless m.name.toList := by
    simp only [Lots.metrics, List.forall_mem_cons]
    refine ⟨⟨?_, ?_⟩, ⟨?_, ?_⟩, ⟨?_, ?_⟩, List.forall_mem_nil _⟩ <;>
      exact Text.of_literal (p := Harmless) (by decide +kernel)
  have hword : Harmless " AS ".toList := by decide
  refine .join (by decide) (List.forall_mem_map.2 fun m hm => ?_)
  obtain ⟨hsql, hname⟩ := hmetrics m hm
  exact (hsql.append hword).append hname

theorem harmless_baseSelect : Harmless Lots.baseSelect := by
  have hselect : Harmless "SELECT ".toList := by decide
  have hcomma : Harmless ", ".toList := by decide
  have hfrom : Harmless " FROM ".toList := by decide
  have htable : Harmless Lots.table.toList := by decide
  have hlists := ((hselect.append harmless_columnList).append hcomma).append harmless_metricList
  exact (hlists.append hfrom).append htable

theorem select_baseSelect : ∃ columns, Lots.baseSelect = "SELECT ".toList ++ columns := by
  unfold Lots.baseSelect
  -- the two lists are named, so that nothing evaluates them
  generalize Lots.columnList = columnList, Lots.metricList = metricList
  exact ⟨columnList ++ ", ".toList ++ metricList ++ " FROM ".toList ++ Lots.table.toList, by
    simp only [List.append_assoc]⟩

theorem harmless_whereClause {conditions : List Text} (h : ∀ t ∈ conditions, Harmless t) :
    Harmless (whereClause conditions) := by
  have hword : Harmless " WHERE ".toList := by decide
  have hsep : Harmless " AND ".toList := by decide
  rw [whereClause]
  split_ifs
  · exact .nil
  · exact hword.append (.join hsep h)

theorem IsOrderClause.harmless {t : Text} (h : IsOrderClause t) : Harmless t := by
  have hwords : Harmless " ORDER BY ".toList := by decide
  have hkeys : ∀ key ∈ orderKeys, Harmless key.toList := by
    simp only [orderKeys, List.forall_mem_cons]
    refine ⟨?_, ?_, ?_, ?_, List.forall_mem_nil _⟩ <;>
      exact Text.of_literal (p := Harmless) (by decide +kernel)
  rcases h with rfl | ⟨key, hkey, rfl⟩
  · exact .nil
  · exact hwords.append (hkeys key hkey)

namespace IsSearchStatement

theorem harmless {sql : Text} (h : IsSearchStatement sql) : Harmless sql := by
  obtain ⟨conditions, order, count, hconditions, horder, _, rfl⟩ := h
  have hlimit : Harmless " LIMIT ".toList := by decide
  have hwhere := harmless_whereClause (hconditions.forall_mem harmless_of_conditionForms)
  exact (((harmless_baseSelect.append hwhere).append horder.harmless).append hlimit).append
    (harmless_ofNat count)

end IsSearchStatement

namespace Search

def orderClause (intent : Intent) : Text :=
  match intent.order? with
  | some order => " ORDER BY ".toList ++ order
  | none => []

theorem unbounded_eq (s : Search) :
    s.unbounded = Lots.baseSelect ++ whereClause s.conditions ++ orderClause s.intent := rfl

theorem isOrderClause_orderClause (intent : Intent) : IsOrderClause (orderClause intent) := by
  have hkeys : ∀ order ∈ intent.order?, order ∈ orderKeys.map String.toList := by
    cases intent <;> simp [Intent.order?, orderKeys]
  rw [orderClause]
  split
  · rename_i order horder
    obtain ⟨key, hkey, rfl⟩ := List.mem_map.1 (hkeys order horder)
    exact .inr ⟨key, hkey, rfl⟩
  · exact .inl rfl

/-- What a request asks for. -/
def read (request : Text) : Search := ofRequest request (Text.lower request)

theorem sql_byRules (request : Text) :
    (Understood.byRules request).sql = Lots.baseSelect ++ whereClause (read request).conditions ++
      orderClause (read request).intent ++ " LIMIT ".toList ++ Text.ofInt (read request).limit :=
  rfl

theorem WellFormed.isSearchStatement {s : Search} (h : s.WellFormed) :
    IsSearchStatement s.statement := by
  have hpos := h.one_le_limit
  have hle : s.limit ≤ 100 := h.limit_le
  refine ⟨s.conditions, orderClause s.intent, s.limit.toNat, h.chosen_conditions,
    isOrderClause_orderClause _, by omega, ?_⟩
  rw [statement, unbounded_eq, Text.ofInt_of_nonneg (by omega)]

end Search

/-- The statement for a request has the fixed form, and so no request makes it hold a semicolon, a
backslash, a line break, a comment or an open literal. -/
theorem byRules_isSearchStatement (request : Text) :
    IsSearchStatement (Understood.byRules request).sql ∧
      ';' ∉ (Understood.byRules request).sql ∧ '\\' ∉ (Understood.byRules request).sql ∧
      '\n' ∉ (Understood.byRules request).sql ∧
      ¬ "--".toList <:+: (Understood.byRules request).sql ∧
      (Understood.byRules request).sql.count '\'' % 2 = 0 := by
  have hform : IsSearchStatement (Understood.byRules request).sql :=
    (Search.wellFormed_ofRequest request).isSearchStatement
  have hharmless := hform.harmless
  exact ⟨hform, hharmless.notMem _ (by decide), hharmless.notMem _ (by decide),
    hharmless.notMem _ (by decide), hharmless.not_isInfix, hharmless.quotes⟩

/-! ## The statement at the gate -/

namespace IsSearchStatement

/-- A statement begins with its fixed word and ends in the digits of its count. -/
theorem ends {sql : Text} (h : IsSearchStatement sql) :
    ∃ middle count, sql = "SELECT ".toList ++ (middle ++ Text.ofNat count) := by
  obtain ⟨conditions, order, count, _, _, _, rfl⟩ := h
  obtain ⟨columns, hbase⟩ := select_baseSelect
  refine ⟨columns ++ whereClause conditions ++ order ++ " LIMIT ".toList, count, ?_⟩
  simp only [hbase, List.append_assoc]

/-- The fixed word at the beginning and the digits at the end leave nothing to cut off. -/
theorem body_eq_self {sql : Text} (h : IsSearchStatement sql) : body sql = sql := by
  have hend := h.harmless.regionAfter_ne_comment
  obtain ⟨middle, count, rfl⟩ := h.ends
  apply Statement.body_eq_self _ _ hend
  · intro c hc
    obtain rfl : 'S' = c := by simpa using hc
    decide
  · intro c hc
    have hlast := List.getLast?_eq_some_getLast (Text.ofNat_ne_nil count)
    rw [← List.append_assoc, List.getLast?_append, hlast, Option.some_or] at hc
    have hdigit := Text.isDigit_of_mem_ofNat (List.mem_of_getLast? (hlast.trans hc))
    exact ⟨isBlank_of_isDigit hdigit, ne_of_class hdigit (by decide)⟩

theorem startsWithSelect {sql : Text} (h : IsSearchStatement sql) :
    Statement.startsWithSelect sql = true := by
  obtain ⟨middle, count, rfl⟩ := h.ends
  have hstart : Text.trimStart ("SELECT ".toList ++ (middle ++ Text.ofNat count)) =
      "SELECT ".toList ++ (middle ++ Text.ofNat count) := by
    apply Text.trimStart_eq_self
    intro c hc
    obtain rfl : 'S' = c := by simpa using hc
    decide
  rw [Statement.startsWithSelect, hstart]
  rfl

end IsSearchStatement

/-- The gate moves the count of a statement to the bound. -/
theorem Search.WellFormed.gate_statement {s : Search} (h : s.WellFormed) (maxRows : Int) :
    gate s.statement maxRows =
      .ok (s.unbounded ++ " LIMIT ".toList ++ Text.ofInt (min s.limit (clampRows maxRows))) := by
  have hform := h.isSearchStatement
  refine gate_eq_ok_iff.2 ⟨hform.body_eq_self.symm ▸ hform.startsWithSelect, ?_⟩
  rw [hform.body_eq_self]
  have hpos := h.one_le_limit
  have happend : ∀ n : Int, s.unbounded ++ " LIMIT ".toList ++ Text.ofInt n =
      (s.unbounded ++ [' ']) ++ ("LIMIT ".toList ++ Text.ofInt n ++ []) := by
    intro n
    simp
  have hblank : isWord ' ' = false := by decide
  rw [Search.statement, happend, happend, Text.ofInt_of_nonneg (n := s.limit) (by omega)]
  rw [bound_clause (by simp [hblank]) (by rfl) _ (clampRows_le maxRows),
    Int.toNat_of_nonneg (by omega)]

/-- The gate accepts the statement for every request and only lowers its count to the bound. -/
theorem gate_byRules (request : Text) (maxRows : Int) :
    ∃ (before : Text) (limit : Int), 1 ≤ limit ∧ limit ≤ 100 ∧
      (Understood.byRules request).sql = before ++ " LIMIT ".toList ++ Text.ofInt limit ∧
      gate (Understood.byRules request).sql maxRows =
        .ok (before ++ " LIMIT ".toList ++ Text.ofInt (min limit (max 1 (min maxRows 100)))) ∧
      gate (Understood.byRules request).sql 100 = .ok (Understood.byRules request).sql := by
  obtain ⟨s, hs⟩ : ∃ s, Search.ofRequest request (Text.lower request) = s := ⟨_, rfl⟩
  have hsql : (Understood.byRules request).sql = s.statement := by rw [← hs]; rfl
  have hwell : s.WellFormed := hs ▸ Search.wellFormed_ofRequest request
  have hgate := hwell.gate_statement
  refine ⟨s.unbounded, s.limit, hwell.one_le_limit, hwell.limit_le, hsql, ?_, ?_⟩
  · rw [hsql]
    exact hgate maxRows
  · have hmin : min s.limit (clampRows 100) = s.limit := Int.min_eq_left hwell.limit_le
    rw [hsql, hgate 100, hmin, Search.statement]

end LotSearch
