import LotSearch.Proofs.Request.Statement
import LotSearch.Proofs.Service.Search
import LotSearch.Service.Script

/-!
# Requests without the model

A request in free text is answered by the rules whenever the model fails or says nothing that holds
a statement.  Then nothing tells which of these it was: the rules build a statement that always
passes the gate, and what is executed, recorded and returned depends on the executor and the log
alone, as long as the request is not cut off.
-/

namespace LotSearch

theorem IsSearchStatement.exists_gate {sql : Text} (h : IsSearchStatement sql)
    (maxRows : Int) : ∃ out, Statement.gate sql maxRows = .ok out :=
  ⟨_, Statement.gate_eq_ok_iff.2 ⟨h.body_eq_self.symm ▸ h.startsWithSelect, rfl⟩⟩

namespace Service

open Statement

/-- The model failed, or its reply holds no statement. -/
def Unread : Except ModelFailure Text → Prop
  | .error _ => True
  | .ok reply => Reply.read? reply = none

theorem understand_of_unread {outcome : Except ModelFailure Text} (h : Unread outcome)
    (request : Text) : understand outcome request = Understood.byRules request := by
  cases outcome with
  | error failure => rfl
  | ok reply =>
      have hread : Reply.read? reply = none := h
      simp [understand, Except.toOption, hread]

/-! ## From the statement on -/

section

variable {α : Type} {maxRows : Int} {statement sql : Text} {around : Surroundings}
  {limit : Duration} {waited : Nat} {s : SessionState}

/-- The course from the execution on, when the request is not cut off. -/
def inTime (around : Surroundings) (sql : Text) (report : List Json → SavedSearch)
    (answer : List Json → α) (s : SessionState) : Course α :=
  let executed := { s with executions := s.executions + 1 }
  match (around.executor s.executions).outcome with
  | .error reason =>
      ⟨.error (.executionFailed reason sql), executed, [.executed sql]⟩
  | .ok rows =>
      let stored := (around.append s.appends).outcome.isOk
      let appended := { executed with appends := s.appends + 1 }
      ⟨.ok (answer rows),
        if stored then { appended with log := s.log ++ [report rows] } else appended,
        [.executed sql, .appended (report rows) stored]⟩

/-- A statement that passes the gate is executed, and the course is as it is in time unless it is
cut off. -/
theorem perform_finishSearch (report : Text → List Json → SavedSearch)
    (answer : Text → List Json → α) (h : gate statement maxRows = .ok sql) {c : Course α}
    (hc : (finishSearch maxRows statement report answer).perform around limit waited s = c) :
    c.executed = [sql] ∧
      (c = inTime around sql (report sql) (answer sql) s ∨
        c.result = .error (.timedOut limit) ∧
          limit.milliseconds < waited + (around.executor s.executions).wait +
            (around.append s.appends).wait) := by
  obtain ⟨next, hplan, hfailed, hrows⟩ := finishSearch_of_gate report answer h
  subst hc
  rw [hplan, Plan.perform]
  by_cases hlate : limit.milliseconds < waited + (around.executor s.executions).wait
  · rw [if_pos hlate]
    exact ⟨rfl, .inr ⟨rfl, by omega⟩⟩
  · rw [if_neg hlate]
    cases houtcome : (around.executor s.executions).outcome with
    | error reason =>
        rw [hfailed]
        exact ⟨rfl, .inl (by simp [inTime, houtcome, Plan.perform, Course.after])⟩
    | ok rows =>
        rw [hrows, Plan.perform]
        -- the request can still be cut off while its record is added
        by_cases hcut : limit.milliseconds < waited + (around.executor s.executions).wait +
            (around.append s.appends).wait
        · rw [if_pos hcut]
          exact ⟨rfl, .inr ⟨rfl, hcut⟩⟩
        · rw [if_neg hcut]
          refine ⟨rfl, .inl ?_⟩
          simp [inTime, houtcome, Plan.perform, Course.after, not_lt.1 hcut]

/-- The steps from the statement on do not ask the model. -/
theorem perform_finishSearch_withModel (around : Surroundings)
    (model : Nat → Answer (Except ModelFailure Text)) (report : Text → List Json → SavedSearch)
    (answer : Text → List Json → α) (h : gate statement maxRows = .ok sql) :
    (finishSearch maxRows statement report answer).perform { around with model := model } limit
        waited s =
      (finishSearch maxRows statement report answer).perform around limit waited s := by
  obtain ⟨next, hplan, hfailed, hrows⟩ := finishSearch_of_gate report answer h
  rw [hplan, Plan.perform, Plan.perform]
  cases (around.executor s.executions).outcome with
  | error reason => simp only [hfailed, Plan.perform]
  | ok rows => simp only [hrows, Plan.perform]

end

/-! ## Requests in free text -/

/-- The course of a request in free text when the model behaves as `model`. -/
def courseWith (around : Surroundings) (model : Nat → Answer (Except ModelFailure Text))
    (maxRows : Int) (limit : Duration) (q : NaturalQuery) (s : SessionState) :
    Course NaturalAnswer :=
  (natural maxRows q).perform { around with model := model } limit 0 s

/-- What a course guarantees in which the rules build the statement, after a model that took
`wait` milliseconds. -/
structure AnsweredByRules (around : Surroundings) (limit : Duration) (q : NaturalQuery)
    (s : SessionState) (wait : Nat) (sql : Text) (c : Course NaturalAnswer) : Prop where
  executed : c.executed = [sql] ∨ c.executed = [] ∧ limit.milliseconds < wait
  answered : ∀ answer, c.result = .ok answer →
    answer.source = .rules ∧
      answer.explanation = (Understood.byRules (Text.trim q.query)).explanation ∧
      answer.sql = sql ∧ (around.executor s.executions).outcome = .ok answer.results ∧
      ∃ record, c.records = [record] ∧ record.rawText = some (Text.trim q.query) ∧
        record.sql = some sql ∧ record.resultCount = answer.results.length
  failed : ∀ fault, c.result = .error fault →
    (∃ reason, (around.executor s.executions).outcome = .error reason ∧
      fault = .executionFailed reason sql) ∨
    fault = .timedOut limit ∧ limit.milliseconds <
      wait + (around.executor s.executions).wait + (around.append s.appends).wait

def rulesAnswer (q : NaturalQuery) (sql : Text) (rows : List Json) : NaturalAnswer where
  results := rows
  explanation := (Understood.byRules (Text.trim q.query)).explanation
  sql := sql
  source := .rules

section

variable {around : Surroundings} {model model' : Nat → Answer (Except ModelFailure Text)}
  {maxRows : Int} {limit : Duration} {q : NaturalQuery} {s : SessionState} {sql : Text}

/-- What comes behind the question to the model, when its answer is unread. -/
def planByRules (maxRows : Int) (q : NaturalQuery) : Plan NaturalAnswer :=
  finishSearch maxRows (Understood.byRules (Text.trim q.query)).sql (requestRecord q)
    (rulesAnswer q)

/-- Of an unread answer only the time that it took matters. -/
theorem courseWith_of_unread (hquery : Text.trim q.query ≠ [])
    (hmodel : Unread (model s.modelCalls).outcome)
    (hgate : gate (Understood.byRules (Text.trim q.query)).sql maxRows = .ok sql) :
    courseWith around model maxRows limit q s =
      Course.after (.asked Lots.prompt (Text.trim q.query))
        (if limit.milliseconds < (model s.modelCalls).wait then
          Plan.cutOff limit { s with modelCalls := s.modelCalls + 1 }
        else
          (planByRules maxRows q).perform around limit (model s.modelCalls).wait
            { s with modelCalls := s.modelCalls + 1 }) := by
  rw [courseWith, natural_eq maxRows (List.isEmpty_eq_false_iff.2 hquery), Plan.perform]
  simp only [understand_of_unread hmodel, Nat.zero_add]
  rw [planByRules, ← perform_finishSearch_withModel around model _ _ hgate]
  rfl

/-- The course of a request that the rules answer, when it is not cut off. -/
def courseByRules (around : Surroundings) (q : NaturalQuery) (s : SessionState) (sql : Text) :
    Course NaturalAnswer :=
  (inTime around sql (requestRecord q sql) (rulesAnswer q sql)
    { s with modelCalls := s.modelCalls + 1 }).after (.asked Lots.prompt (Text.trim q.query))

theorem answeredByRules_courseByRules (wait : Nat) :
    AnsweredByRules around limit q s wait sql (courseByRules around q s sql) := by
  rw [courseByRules, inTime]
  cases houtcome : (around.executor s.executions).outcome with
  | error reason =>
      refine ⟨.inl rfl, fun answer hanswer => ?_, fun fault hfault => ?_⟩
      · cases hanswer
      · obtain rfl := Except.error.inj hfault
        exact .inl ⟨reason, houtcome, rfl⟩
  | ok rows =>
      refine ⟨.inl rfl, fun answer hanswer => ?_, fun fault hfault => ?_⟩
      · obtain rfl := Except.ok.inj hanswer
        exact ⟨rfl, rfl, rfl, houtcome, _, rfl, rfl, rfl, rfl⟩
      · cases hfault

theorem answeredByRules_of_timedOut {wait : Nat} {c : Course NaturalAnswer}
    (hexecuted : c.executed = [sql] ∨ c.executed = [] ∧ limit.milliseconds < wait)
    (hresult : c.result = .error (.timedOut limit))
    (hlate : limit.milliseconds <
      wait + (around.executor s.executions).wait + (around.append s.appends).wait) :
    AnsweredByRules around limit q s wait sql c := by
  refine ⟨hexecuted, fun answer hanswer => ?_, fun fault hfault => ?_⟩
  · rw [hresult] at hanswer
    cases hanswer
  · obtain rfl := Except.error.inj (hresult.symm.trans hfault)
    exact .inr ⟨rfl, hlate⟩

variable (around limit) in
theorem courseWith_cases (hquery : Text.trim q.query ≠ [])
    (hmodel : Unread (model s.modelCalls).outcome)
    (hgate : gate (Understood.byRules (Text.trim q.query)).sql maxRows = .ok sql) :
    AnsweredByRules around limit q s (model s.modelCalls).wait sql
        (courseWith around model maxRows limit q s) ∧
      (courseWith around model maxRows limit q s = courseByRules around q s sql ∨
        (courseWith around model maxRows limit q s).result = .error (.timedOut limit)) := by
  rw [courseWith_of_unread hquery hmodel hgate]
  by_cases hlate : limit.milliseconds < (model s.modelCalls).wait
  · rw [if_pos hlate]
    exact ⟨answeredByRules_of_timedOut (.inr ⟨rfl, hlate⟩) rfl (by omega), .inr rfl⟩
  · rw [if_neg hlate]
    obtain ⟨hexecuted, hcourse | ⟨hresult, hcut⟩⟩ :=
      perform_finishSearch (requestRecord q) (rulesAnswer q) hgate rfl
    · rw [planByRules, hcourse]
      exact ⟨answeredByRules_courseByRules _, .inl rfl⟩
    · exact ⟨answeredByRules_of_timedOut (.inl hexecuted) hresult hcut, .inr hresult⟩

end

/-- Two answers of the model that are not read lead to one and the same course, when they take the
same time or neither request is cut off. -/
theorem courseWith_unread (around : Surroundings)
    {model model' : Nat → Answer (Except ModelFailure Text)} (maxRows : Int) (limit : Duration)
    {q : NaturalQuery} {s : SessionState} (hquery : Text.trim q.query ≠ [])
    (hmodel : Unread (model s.modelCalls).outcome)
    (hmodel' : Unread (model' s.modelCalls).outcome) :
    ((model s.modelCalls).wait = (model' s.modelCalls).wait →
      courseWith around model maxRows limit q s = courseWith around model' maxRows limit q s) ∧
    ((courseWith around model maxRows limit q s).result ≠ .error (.timedOut limit) →
      (courseWith around model' maxRows limit q s).result ≠ .error (.timedOut limit) →
      courseWith around model maxRows limit q s = courseWith around model' maxRows limit q s) ∧
    ∃ sql, gate (Understood.byRules (Text.trim q.query)).sql maxRows = .ok sql ∧
      AnsweredByRules around limit q s (model s.modelCalls).wait sql
        (courseWith around model maxRows limit q s) ∧
      AnsweredByRules around limit q s (model' s.modelCalls).wait sql
        (courseWith around model' maxRows limit q s) := by
  have hform : IsSearchStatement (Understood.byRules (Text.trim q.query)).sql :=
    (Search.wellFormed_ofRequest (Text.trim q.query)).isSearchStatement
  obtain ⟨sql, hgate⟩ := hform.exists_gate maxRows
  obtain ⟨hrules, hcourse⟩ := courseWith_cases around limit hquery hmodel hgate
  obtain ⟨hrules', hcourse'⟩ := courseWith_cases around limit hquery hmodel' hgate
  refine ⟨fun hwait => ?_, fun hintime hintime' => ?_, sql, hgate, hrules, hrules'⟩
  · rw [courseWith_of_unread hquery hmodel hgate, courseWith_of_unread hquery hmodel' hgate, hwait]
  · rw [hcourse.resolve_right hintime, hcourse'.resolve_right hintime']

def vacantLots : NaturalQuery := ⟨" vacant lots\n".toList, some "ada".toList⟩

def oneLot : Surroundings := Script.surroundings { executor := [⟨5, .ok [.object []]⟩] }

def withoutCredential (_ : Nat) : Answer (Except ModelFailure Text) :=
  ⟨20, .error .missingCredential⟩

def withBlank (_ : Nat) : Answer (Except ModelFailure Text) :=
  ⟨20, .ok "Sure: \x7b\"sql\": \" \", \"explanation\": \"All lots.\"\x7d".toList⟩

theorem courseWith_unread_vacantLots :
    Unread (withoutCredential 0).outcome ∧ Unread (withBlank 0).outcome ∧
      courseWith oneLot withoutCredential 100 (.ofSeconds 60) vacantLots {} =
        courseWith oneLot withBlank 100 (.ofSeconds 60) vacantLots {} ∧
      ∃ sql, gate (Understood.byRules "vacant lots".toList).sql 100 = .ok sql ∧
        AnsweredByRules oneLot (.ofSeconds 60) vacantLots {} 20 sql
          (courseWith oneLot withBlank 100 (.ofSeconds 60) vacantLots {}) := by
  have hquery : Text.trim vacantLots.query ≠ [] := by decide
  have hblank : Unread (withBlank 0).outcome := by
    have hread : Reply.read?
        "Sure: \x7b\"sql\": \" \", \"explanation\": \"All lots.\"\x7d".toList = none := by cbv
    exact hread
  obtain ⟨hwait, -, sql, hgate, -, hrules⟩ :=
    @courseWith_unread oneLot withoutCredential withBlank 100 (.ofSeconds 60) vacantLots {} hquery
      trivial hblank
  exact ⟨trivial, hblank, hwait rfl, sql, hgate, hrules⟩

end Service

end LotSearch
