import LotSearch.Proofs.Request.Announcement
import LotSearch.Proofs.Service.Fallback

/-!
# Announced and executed bounds

A request that the rules answer comes back with an explanation and a statement.  The explanation
is written for the number of results that was asked for, and the bound that the service is
configured with is put on the statement alone.  So the two agree unless that bound is the lower
one.
-/

namespace LotSearch

open Statement

theorem Search.WellFormed.limit?_unbounded {s : Search} (h : s.WellFormed) {n : Int} (hpos : 1 ≤ n)
    (hle : n ≤ rowCeiling) : limit? (s.unbounded ++ " LIMIT ".toList ++ Text.ofInt n) = some n := by
  have hcounted : ({ s with limit := n } : Search).WellFormed :=
    { h with one_le_limit := hpos, limit_le := hle }
  have hbody : body (s.unbounded ++ " LIMIT ".toList ++ Text.ofInt n) =
      s.unbounded ++ " LIMIT ".toList ++ Text.ofInt n := hcounted.isSearchStatement.body_eq_self
  have happend : s.unbounded ++ " LIMIT ".toList ++ Text.ofInt n =
      (s.unbounded ++ [' ']) ++ ("LIMIT ".toList ++ Text.ofInt n ++ []) := by
    simp
  rw [happend] at hbody ⊢
  have hblank : isWord ' ' = false := by decide
  exact (boundedBy hpos hle (by simp [hblank]) (by rfl)).limit?_eq hbody

namespace Service

section

variable {around : Surroundings} {model : Nat → Answer (Except ModelFailure Text)} {maxRows : Int}
  {limit : Duration} {q : NaturalQuery} {s : SessionState}

/-- The statement of the rules behind the gate. -/
def boundedSearch (maxRows : Int) (q : NaturalQuery) : Text :=
  (Search.read (Text.trim q.query)).unbounded ++ " LIMIT ".toList ++
    Text.ofInt (min (Search.read (Text.trim q.query)).limit maxRows)

theorem gate_boundedSearch (hpos : 1 ≤ maxRows) (hle : maxRows ≤ 100) :
    gate (Understood.byRules (Text.trim q.query)).sql maxRows = .ok (boundedSearch maxRows q) ∧
      limit? (boundedSearch maxRows q) =
        some (min (Search.read (Text.trim q.query)).limit maxRows) := by
  have hwell : (Search.read (Text.trim q.query)).WellFormed := Search.wellFormed_ofRequest _
  have hlow := hwell.one_le_limit
  have hclamp : clampRows maxRows = maxRows := by
    rw [clampRows, rowCeiling]
    omega
  constructor
  · have hgate := hwell.gate_statement maxRows
    rw [hclamp] at hgate
    exact hgate
  · apply hwell.limit?_unbounded
    · omega
    · rw [rowCeiling]
      omega

theorem executed_courseByRules (sql : Text) : (courseByRules around q s sql).executed = [sql] := by
  rw [courseByRules, inTime]
  cases (around.executor s.executions).outcome <;> rfl

theorem announces_of_answer (hquery : Text.trim q.query ≠ [])
    (hmodel : Unread (model s.modelCalls).outcome) (hpos : 1 ≤ maxRows) (hle : maxRows ≤ 100)
    {answer : NaturalAnswer} (h : (courseWith around model maxRows limit q s).result = .ok answer) :
    (courseWith around model maxRows limit q s).executed = [answer.sql] ∧
      answer.sql = boundedSearch maxRows q ∧
      ∀ n, Announces answer.explanation n ↔ n = (Search.read (Text.trim q.query)).limit := by
  obtain ⟨hgate, -⟩ := gate_boundedSearch (q := q) hpos hle
  obtain ⟨hrules, hcourse⟩ := courseWith_cases around limit hquery hmodel hgate
  obtain ⟨-, hexplanation, hsql, -⟩ := hrules.answered answer h
  rcases hcourse with hcourse | hlate
  · refine ⟨?_, hsql, fun n => ?_⟩
    · rw [hcourse, hsql]
      exact executed_courseByRules _
    · rw [hexplanation]
      exact announces_byRules_iff _ n
  · rw [hlate] at h
    cases h

theorem exists_answer (hquery : Text.trim q.query ≠ [])
    (hmodel : Unread (model s.modelCalls).outcome) (hpos : 1 ≤ maxRows) (hle : maxRows ≤ 100)
    {rows : List Json} (hrows : (around.executor s.executions).outcome = .ok rows)
    (htime : (model s.modelCalls).wait + (around.executor s.executions).wait +
      (around.append s.appends).wait ≤ limit.milliseconds) :
    ∃ answer, (courseWith around model maxRows limit q s).result = .ok answer := by
  obtain ⟨hgate, -⟩ := gate_boundedSearch (q := q) hpos hle
  obtain ⟨hrules, -⟩ := courseWith_cases around limit hquery hmodel hgate
  cases hresult : (courseWith around model maxRows limit q s).result with
  | ok answer => exact ⟨answer, rfl⟩
  | error fault =>
      exfalso
      rcases hrules.failed fault hresult with ⟨reason, hreason, -⟩ | ⟨-, hlate⟩
      · rw [hrows] at hreason
        cases hreason
      · omega

end

/-- What the rules make of a request is executed and returned with the smaller one of the announced
number of results and the configured bound. -/
theorem courseWith_announces (around : Surroundings)
    {model : Nat → Answer (Except ModelFailure Text)} {maxRows : Int} (limit : Duration)
    {q : NaturalQuery} {s : SessionState} (hquery : Text.trim q.query ≠ [])
    (hmodel : Unread (model s.modelCalls).outcome) (hpos : 1 ≤ maxRows) (hle : maxRows ≤ 100) :
    ∃ sql n, n = Search.limitOf (Text.lower (Text.trim q.query)) ∧
      limit? sql = some (min n maxRows) ∧ (limit? sql = some n ↔ n ≤ maxRows) ∧
      ((courseWith around model maxRows limit q s).executed = [sql] ∨
        (courseWith around model maxRows limit q s).executed = [] ∧
          limit.milliseconds < (model s.modelCalls).wait) ∧
      (∀ answer, (courseWith around model maxRows limit q s).result = .ok answer →
        (courseWith around model maxRows limit q s).executed = [sql] ∧ answer.sql = sql ∧
          ∀ k, Announces answer.explanation k ↔ k = n) ∧
      ∀ rows, (around.executor s.executions).outcome = .ok rows →
        (model s.modelCalls).wait + (around.executor s.executions).wait +
          (around.append s.appends).wait ≤ limit.milliseconds →
        ∃ answer, (courseWith around model maxRows limit q s).result = .ok answer := by
  obtain ⟨hgate, hlimit⟩ := gate_boundedSearch (q := q) hpos hle
  obtain ⟨hrules, -⟩ := courseWith_cases around limit hquery hmodel hgate
  refine ⟨boundedSearch maxRows q, (Search.read (Text.trim q.query)).limit, rfl, hlimit, ?_,
    hrules.executed, fun answer hanswer => ?_, fun rows hrows htime => ?_⟩
  · rw [hlimit, Option.some.injEq]
    exact inf_eq_left
  · obtain ⟨hexecuted, hsql, hannounces⟩ := announces_of_answer hquery hmodel hpos hle hanswer
    exact ⟨hsql ▸ hexecuted, hsql, hannounces⟩
  · exact exists_answer hquery hmodel hpos hle hrows htime

theorem limitOf_vacantLots : Search.limitOf (Text.lower (Text.trim vacantLots.query)) = 100 := by
  cbv

theorem courseWith_announces_vacantLots :
    ∃ answer, (courseWith oneLot withoutCredential 10 (.ofSeconds 60) vacantLots {}).result =
        .ok answer ∧ limit? answer.sql = some 10 ∧ Announces answer.explanation 100 := by
  have hquery : Text.trim vacantLots.query ≠ [] := by decide
  obtain ⟨sql, n, hn, hlimit, -, -, hanswered, hanswer⟩ :=
    @courseWith_announces oneLot withoutCredential 10 (.ofSeconds 60) vacantLots {} hquery trivial
      (by decide) (by decide)
  rw [limitOf_vacantLots] at hn
  subst hn
  obtain ⟨answer, hresult⟩ := hanswer _ rfl (by decide)
  obtain ⟨-, rfl, hannounces⟩ := hanswered answer hresult
  exact ⟨answer, hresult, hlimit, (hannounces 100).2 rfl⟩

/-- The announced number is not lowered to the configured bound. -/
theorem not_announces_executed :
    ¬ ∀ (around : Surroundings) (model : Nat → Answer (Except ModelFailure Text)) (maxRows : Int)
      (limit : Duration) (q : NaturalQuery) (s : SessionState) (answer : NaturalAnswer) (n : Int),
      Text.trim q.query ≠ [] → 1 ≤ maxRows → maxRows ≤ 100 →
      (∃ failure, (model s.modelCalls).outcome = .error failure) →
      (courseWith around model maxRows limit q s).result = .ok answer →
      Announces answer.explanation n → limit? answer.sql = some n := by
  intro h
  have hquery : Text.trim vacantLots.query ≠ [] := by decide
  have hmodel : Unread (withoutCredential 0).outcome := trivial
  obtain ⟨answer, hresult⟩ : ∃ answer,
      (courseWith oneLot withoutCredential 10 (.ofSeconds 60) vacantLots {}).result = .ok answer :=
    exists_answer hquery hmodel (by decide) (by decide) rfl (by decide)
  obtain ⟨-, hsql, hannounces⟩ :=
    announces_of_answer hquery hmodel (by decide) (by decide) hresult
  have hlimit := h oneLot withoutCredential 10 _ vacantLots {} answer 100 hquery (by decide)
    (by decide) ⟨_, rfl⟩ hresult ((hannounces 100).2 limitOf_vacantLots.symm)
  rw [hsql, (gate_boundedSearch (by decide) (by decide)).2, Option.some.injEq] at hlimit
  have hten : min (100 : Int) 10 = 100 := limitOf_vacantLots ▸ hlimit
  exact absurd hten (by decide)

end Service

end LotSearch
