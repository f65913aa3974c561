import LotSearch.Proofs.Service.Audit
import LotSearch.Proofs.Service.Browsing
import LotSearch.Proofs.Service.Log

/-!
# Finding searches again

A search that succeeded for a caller is among the saved searches of that caller, however many
requests were served since.  The log knows a caller by the very text that came with the search,
while a listing is asked for by a text without blanks around it.
-/

namespace LotSearch

theorem SearchLog.exists_mem_ofCaller {log : SearchLog} {record : SavedSearch} {caller : Text}
    (hmem : record ∈ log) (hcaller : record.callerId = some caller) :
    ∃ r ∈ ofCaller caller log, r.search = record := by
  obtain ⟨i, hi, rfl⟩ := List.getElem_of_mem hmem
  refine ⟨⟨i + 1, log[i]⟩, List.mem_filter.2 ⟨List.mem_reverse.2 ?_, by simpa using hcaller⟩, rfl⟩
  exact List.mem_map.2 ⟨(log[i], i), List.mk_mem_zipIdx_iff_getElem?.2 (by simp [hi]), rfl⟩

theorem SearchLog.callerId_of_mem_ofCaller {log : SearchLog} {r : LoggedSearch} {caller : Text}
    (h : r ∈ ofCaller caller log) : r.search.callerId = some caller := by
  simpa using List.of_mem_filter h

theorem Course.exists_ok_of_map {α β : Type} {f : α → β} {c : Course α} {b : β}
    (h : (c.map f).result = .ok b) : ∃ a, c.result = .ok a := by
  cases hresult : c.result with
  | ok a => exact ⟨a, rfl⟩
  | error fault =>
      rw [Course.map, hresult] at h
      cases h

/-! ## Served requests -/

/-- The state after requests that are served one after another. -/
def stateAfter (around : Surroundings) (maxRows : Int) (limit : Duration) :
    List SearchRequest → SessionState → SessionState
  | [], s => s
  | r :: requests, s =>
      stateAfter around maxRows limit requests (r.course around maxRows limit s).state

variable {around : Surroundings} {maxRows : Int} {limit : Duration}

theorem SearchRequest.log_isPrefix (r : SearchRequest) (s : SessionState) :
    s.log <+: (r.course around maxRows limit s).state.log := by
  cases r with
  | natural q => exact Plan.log_isPrefix _ _ _
  | template q => exact Plan.log_isPrefix _ _ _
  | opportunity q => exact Plan.log_isPrefix _ _ _

theorem log_isPrefix_stateAfter (requests : List SearchRequest) (s : SessionState) :
    s.log <+: (stateAfter around maxRows limit requests s).log := by
  induction requests generalizing s with
  | nil => exact List.prefix_rfl
  | cons r requests ih => exact (r.log_isPrefix s).trans (ih _)

namespace SearchRequest

/-- How long the log takes does not show in the course of a search that succeeded. -/
theorem course_withPromptLog (r : SearchRequest) (s : SessionState) {answer : SearchAnswer}
    (h : (r.course around maxRows limit s).result = .ok answer) :
    r.course around.withPromptLog maxRows limit s = r.course around maxRows limit s := by
  cases r with
  | natural q =>
      obtain ⟨_, hresult⟩ := Course.exists_ok_of_map h
      exact congrArg (Course.map _) (Plan.perform_withPromptLog _ le_rfl s hresult)
  | template q =>
      obtain ⟨_, hresult⟩ := Course.exists_ok_of_map h
      exact congrArg (Course.map _) (Plan.perform_withPromptLog _ le_rfl s hresult)
  | opportunity q =>
      obtain ⟨_, hresult⟩ := Course.exists_ok_of_map h
      exact congrArg (Course.map _) (Plan.perform_withPromptLog _ le_rfl s hresult)

theorem log_eq_of_ok (hkept : ∀ n, (around.append n).outcome = .ok ()) (r : SearchRequest)
    (s : SessionState) {answer : SearchAnswer}
    (h : (r.course around maxRows limit s).result = .ok answer) :
    (r.course around maxRows limit s).state.log =
      s.log ++ (r.course around maxRows limit s).records := by
  cases r with
  | natural q =>
      obtain ⟨_, hresult⟩ := Course.exists_ok_of_map h
      exact Plan.log_eq_of_ok hkept _ 0 s hresult
  | template q =>
      obtain ⟨_, hresult⟩ := Course.exists_ok_of_map h
      exact Plan.log_eq_of_ok hkept _ 0 s hresult
  | opportunity q =>
      obtain ⟨_, hresult⟩ := Course.exists_ok_of_map h
      exact Plan.log_eq_of_ok hkept _ 0 s hresult

theorem logged_of_ok (hkept : ∀ n, (around.append n).outcome = .ok ()) (r : SearchRequest)
    (s : SessionState) {answer : SearchAnswer}
    (h : (r.course around maxRows limit s).result = .ok answer) :
    ∃ sql rows record, (r.course around maxRows limit s).records = [record] ∧
      Reports r sql rows record answer ∧
      record ∈ (r.course around maxRows limit s).state.log := by
  have hprompt : ∀ n, (around.withPromptLog.append n).wait = 0 := fun _ => rfl
  have hended := r.ended hprompt maxRows limit s
  have hlog := r.log_eq_of_ok hkept s h
  rw [r.course_withPromptLog s h] at hended
  cases hended with
  | refused hresult hexecuted hrecords =>
      rw [h] at hresult
      cases hresult
  | failed hgated hnone hresult hstatus hexecuted hrecords =>
      rw [h] at hresult
      cases hresult
  | @done sql rows record answer' hgated hanswered hreports hresult hexecuted hrecords =>
      obtain rfl : answer' = answer := by
        rw [h] at hresult
        exact (Except.ok.inj hresult).symm
      refine ⟨sql, rows, record, hrecords, hreports, ?_⟩
      rw [hlog, hrecords]
      exact List.mem_append_right _ (List.mem_singleton.2 rfl)

end SearchRequest

/-- In a run of requests, the record of every search that succeeded is kept to the end. -/
theorem logged_courses (hkept : ∀ n, (around.append n).outcome = .ok ())
    (requests : List SearchRequest) (s : SessionState) :
    ∀ entry ∈ courses around maxRows limit requests s, ∀ answer,
      entry.2.2.result = .ok answer →
      ∃ sql rows record, entry.2.2.records = [record] ∧
        Reports entry.1 sql rows record answer ∧
        record ∈ (stateAfter around maxRows limit requests s).log := by
  induction requests generalizing s with
  | nil => simp [courses]
  | cons r requests ih =>
      refine List.forall_mem_cons.2 ⟨fun answer hanswer => ?_, ih _⟩
      obtain ⟨sql, rows, record, hrecords, hreports, hmem⟩ := r.logged_of_ok hkept s hanswer
      refine ⟨sql, rows, record, hrecords, hreports, ?_⟩
      exact (log_isPrefix_stateAfter requests _).subset hmem

/-! ## Finding -/

/-- Browsing with `moves` comes to an end after enough pages, and to the record by then. -/
structure Finds (caller : Text) (record : SavedSearch) (size : Nat) (moves : List Move)
    (b : Browsing) : Prop where
  ends : (b.listing caller).length < moves.countP Move.isTurn * size → b.progress = .ended
  found : b.progress = .ended → ∃ r ∈ b.seen, r.search = record

/-- Whether every search that succeeds for a caller is found again by the caller, after whatever
requests were served since and while any searches are added. -/
def Findable (caller : Text) : Prop :=
  ∀ (around : Surroundings) (maxRows : Int) (deadline : Duration) (requests : List SearchRequest)
    (s : SessionState), (∀ n, (around.append n).outcome = .ok ()) →
    Service.Listable around deadline →
    ∀ entry ∈ courses around maxRows deadline requests s, entry.1.userId = some caller →
    ∀ answer, entry.2.2.result = .ok answer →
    ∃ sql rows record, entry.2.2.records = [record] ∧ Reports entry.1 sql rows record answer ∧
      ∀ (limit : Option Int) (moves : List Move),
        (((stateAfter around maxRows deadline requests s).log ++
          moves.filterMap Move.added?).length : Int) ≤ maxInt64 →
        Finds caller record (Service.pageLimit limit).toNat moves
          (Browsing.run around deadline caller limit moves
            (.start (stateAfter around maxRows deadline requests s)))

theorem findable_of_trim_eq {caller : Text} (hcaller : caller ≠ [])
    (htrim : Text.trim caller = caller) : Findable caller := by
  intro around maxRows deadline requests s hkept hlist entry hentry huser answer hanswer
  obtain ⟨sql, rows, record, hrecords, hreports, hmem⟩ :=
    logged_courses hkept requests s entry hentry answer hanswer
  refine ⟨sql, rows, record, hrecords, hreports, fun limit moves hlog => ?_⟩
  have hcovered := covered_run hlist hcaller htrim limit hlog
  refine ⟨hcovered.ends, fun hended => ?_⟩
  obtain ⟨r, hr, hsearch⟩ := SearchLog.exists_mem_ofCaller hmem (hreports.callerId.trans huser)
  exact ⟨r, hcovered.complete hended r hr, hsearch⟩

/-! ## Names with blanks around them -/

theorem Service.callerId_of_history_ok {deadline : Duration} {caller : Text}
    {cursor : Option Text} {count : Option Int} {s : SessionState} {shown : HistoryPage}
    (h : ((history caller cursor count).perform around deadline 0 s).result = .ok shown) :
    Text.trim caller ≠ [] ∧
      ∀ r ∈ shown.results, r.search.callerId = some (Text.trim caller) := by
  rcases history_cases caller cursor count with ⟨fault, hrefused⟩ | ⟨hcaller, offset, hcursor⟩
  · rw [hrefused] at h
    cases h
  · refine ⟨by simpa using hcaller, ?_⟩
    have hshown : shown.results =
        s.log.list (Text.trim caller) offset (pageLimit count) := by
      rw [history_of_standsFor hcaller hcursor, Plan.perform] at h
      simp only [Course.after] at h
      split at h
      · cases h
      · cases houtcome : (around.list s.listings).outcome with
        | error reason =>
            rw [houtcome] at h
            cases h
        | ok u =>
            rw [houtcome] at h
            cases h
            rfl
    intro r hr
    rw [hshown] at hr
    exact SearchLog.callerId_of_mem_ofCaller (List.mem_of_mem_drop (List.mem_of_mem_take hr))

theorem Browsing.callerId_of_first_page {deadline : Duration} {caller : Text}
    {count : Option Int} {s : SessionState}
    (h : ((start s).turn around deadline caller count).progress = .ended) :
    Text.trim caller ≠ [] ∧ ∀ r ∈ ((start s).turn around deadline caller count).seen,
      r.search.callerId = some (Text.trim caller) := by
  simp only [turn, start] at h ⊢
  cases hresult : ((Service.history caller none count).perform around deadline 0 s).result with
  | error fault =>
      rw [hresult] at h
      cases h
  | ok shown => exact Service.callerId_of_history_ok hresult

theorem ok_course_one_row (caller : Text) : ∃ answer,
    ((SearchRequest.template ⟨"1".toList, [], some caller⟩).course oneRow.surroundings 100
      (.ofSeconds 30) {}).result = .ok answer := by
  refine ⟨.template ⟨[.null], "SELECT 1 LIMIT 100".toList,
    ⟨"1".toList, "Lots".toList, none, none, "SELECT 1".toList, []⟩⟩, ?_⟩
  cbv

theorem trim_eq_of_findable {caller : Text} (h : Findable caller) :
    caller ≠ [] ∧ Text.trim caller = caller := by
  obtain ⟨answer, hanswer⟩ := ok_course_one_row caller
  obtain ⟨sql, rows, record, hrecords, hreports, hfinds⟩ :=
    h oneRow.surroundings 100 (.ofSeconds 30) [.template ⟨"1".toList, [], some caller⟩] {}
      (fun _ => rfl) (fun _ => ⟨rfl, Nat.zero_le _⟩) _ (.head _) rfl answer hanswer
  have hlog : (stateAfter oneRow.surroundings 100 (.ofSeconds 30)
      [.template ⟨"1".toList, [], some caller⟩] {}).log = [record] := by
    have hkept := SearchRequest.log_eq_of_ok (fun _ => rfl) _ _ hanswer
    rw [hrecords] at hkept
    exact hkept
  have hroom : (([record] ++ [Move.turn].filterMap Move.added?).length : Int) ≤ maxInt64 := by
    change (1 : Int) ≤ maxInt64
    decide
  obtain ⟨hends, hfound⟩ := hfinds none [.turn] (hlog ▸ hroom)
  have hended := hends (by
    refine (SearchLog.length_ofCaller_le _ _).trans_lt ?_
    rw [Browsing.log_run, Browsing.start, hlog]
    change 1 < 1 * 20
    decide)
  obtain ⟨hname, hshown⟩ := Browsing.callerId_of_first_page hended
  obtain ⟨r, hr, hsearch⟩ := hfound hended
  have hcaller : some caller = some (Text.trim caller) := by
    rw [← hshown r hr, hsearch]
    exact hreports.callerId.symm
  rw [← Option.some.inj hcaller] at hname
  exact ⟨hname, (Option.some.inj hcaller).symm⟩

/-- The searches of a caller can be found again exactly when the name of the caller is not blank
and has no blanks around it. -/
theorem findable_iff (caller : Text) :
    Findable caller ↔ caller ≠ [] ∧ Text.trim caller = caller :=
  ⟨trim_eq_of_findable, fun h => findable_of_trim_eq h.1 h.2⟩

theorem not_findable_blanks_around : " ada ".toList ≠ [] ∧ Text.trim " ada ".toList ≠ [] ∧
    ¬ Findable " ada ".toList := by
  refine ⟨by decide, by decide, fun h => ?_⟩
  exact absurd (trim_eq_of_findable h).2 (by decide)

end LotSearch
