import LotSearch.Http.Router
import LotSearch.Proofs.Service.Browsing
import LotSearch.Proofs.Service.Search

/-!
# Runs with and without records

Whether a search can be added to the log matters to nobody but those who list their searches.  Two
runs of the service in the same surroundings, of which one adds its records and the other fails to,
make the same calls in the same order and give the same answers, and a listing fails in the one run
as it does in the other.  So the parts around the service are asked the same in both runs, and would
answer alike even if they answered in view of all that they were asked before.

A plan learns of the log only by the answers to two kinds of calls.  It goes on in the same way
whatever becomes of a record, and it asks for a listing only with its last call; what it does up to
there does not depend on what the log holds.
-/

namespace LotSearch

/-- The same surroundings with a log that takes its time as before, and that adds a record or fails
to do so as it is told. -/
def Surroundings.withAppends (around : Surroundings) (outcome : Nat → Except Failure Unit) :
    Surroundings :=
  { around with append := fun n => ⟨(around.append n).wait, outcome n⟩ }

namespace Event

/-- The call that was made, whatever became of it. -/
def call : Event → Event
  | appended record _ => appended record false
  | event => event

theorem executed?_call (event : Event) : event.call.executed? = event.executed? := by
  cases event <;> rfl

/-- The calls tell what was executed. -/
theorem executed_eq_of_calls_eq {events events' : List Event}
    (h : events.map call = events'.map call) :
    events.filterMap executed? = events'.filterMap executed? := by
  have hcalls : ∀ events : List Event,
      (events.map call).filterMap executed? = events.filterMap executed? := by
    intro events
    rw [List.filterMap_map]
    exact congrArg (List.filterMap · events) (funext executed?_call)
  rw [← hcalls events, h, hcalls events']

end Event

/-- Whether as many calls were made in one state as in another, whatever the log holds. -/
def SessionState.SameCalls (s s' : SessionState) : Prop := ∃ log, s' = { s with log := log }

/-- Two courses that make the same calls and fail alike; unless searches may be listed, they have
the same result. -/
structure Course.Alike {α : Type} (listing : Prop) (c c' : Course α) : Prop where
  result : ¬ listing → c.result = c'.result
  faults : ∀ fault, c.result = .error fault ↔ c'.result = .error fault
  state : c.state.SameCalls c'.state
  calls : c.events.map Event.call = c'.events.map Event.call

namespace Course.Alike

variable {α : Type} {listing : Prop} {c c' : Course α}

theorem cutOff (limit : Duration) {s s' : SessionState} (h : s.SameCalls s') :
    (Plan.cutOff limit s : Course α).Alike listing (Plan.cutOff limit s') where
  result _ := rfl
  faults _ := Iff.rfl
  state := h
  calls := rfl

theorem ite {p : Prop} [Decidable p] {d d' : Course α} (hc : c.Alike listing c')
    (hd : d.Alike listing d') : (if p then c else d).Alike listing (if p then c' else d') := by
  split
  · exact hc
  · exact hd

theorem after {event event' : Event} (h : c.Alike listing c') (hcall : event.call = event'.call) :
    (c.after event).Alike listing (c'.after event') where
  result := h.result
  faults := h.faults
  state := h.state
  calls := by
    simp only [Course.after, List.map_cons, hcall, h.calls]

end Course.Alike

/-! ## Plans that pass over the log -/

namespace Plan

variable {α β : Type} {listing : Prop}

/-- Whether a plan goes on in the same way whatever becomes of a record, and lists searches only
with its last call, whatever is on the list, and only if `listing`. -/
def PassesOverLog (listing : Prop) : Plan α → Prop
  | finish _ => True
  | ask _ _ next => ∀ answer, (next answer).PassesOverLog listing
  | findTemplate _ next => ∀ answer, (next answer).PassesOverLog listing
  | listTemplates next => ∀ answer, (next answer).PassesOverLog listing
  | findOpportunity _ next => ∀ answer, (next answer).PassesOverLog listing
  | listOpportunities next => ∀ answer, (next answer).PassesOverLog listing
  | execute _ next => ∀ answer, (next answer).PassesOverLog listing
  | append _ next =>
      ∀ answer, next answer = next (.ok ()) ∧ (next answer).PassesOverLog listing
  | listSearches _ _ _ next => listing ∧ (∀ rows, ∃ a, next (.ok rows) = finish (.ok a)) ∧
      ∀ reason, ∃ result, next (.error reason) = finish result

namespace PassesOverLog

theorem bind {p : Plan α} {k : α → Plan β} (hp : p.PassesOverLog False)
    (hk : ∀ a, (k a).PassesOverLog False) : (p.bind k).PassesOverLog False := by
  induction p with
  | finish result =>
      cases result with
      | ok a => exact hk a
      | error fault => trivial
  | ask _ _ _ ih | findTemplate _ _ ih | listTemplates _ ih | findOpportunity _ _ ih
  | listOpportunities _ ih | execute _ _ ih => exact fun answer => ih answer (hp answer)
  | append _ _ ih =>
      intro answer
      obtain ⟨hsame, hnext⟩ := hp answer
      exact ⟨congrArg (Plan.bind · k) hsame, ih answer hnext⟩
  | listSearches _ _ _ _ _ => exact hp.1.elim

/-- A listing may be followed by what makes no more calls. -/
theorem bind_finish {p : Plan α} (hp : p.PassesOverLog listing) (f : α → β) :
    (p.bind fun a => finish (.ok (f a))).PassesOverLog listing := by
  induction p with
  | finish result => cases result <;> trivial
  | ask _ _ _ ih | findTemplate _ _ ih | listTemplates _ ih | findOpportunity _ _ ih
  | listOpportunities _ ih | execute _ _ ih => exact fun answer => ih answer (hp answer)
  | append _ _ ih =>
      intro answer
      obtain ⟨hsame, hnext⟩ := hp answer
      exact ⟨congrArg (Plan.bind · _) hsame, ih answer hnext⟩
  | listSearches _ _ _ _ _ =>
      refine ⟨hp.1, fun rows => ?_, fun reason => ?_⟩
      · obtain ⟨a, ha⟩ := hp.2.1 rows
        exact ⟨f a, congrArg (Plan.bind · _) ha⟩
      · obtain ⟨result, hresult⟩ := hp.2.2 reason
        simp only [hresult]
        cases result <;> exact ⟨_, rfl⟩

theorem mono {p : Plan α} (hp : p.PassesOverLog False) : p.PassesOverLog listing := by
  induction p with
  | finish result => trivial
  | ask _ _ _ ih | findTemplate _ _ ih | listTemplates _ ih | findOpportunity _ _ ih
  | listOpportunities _ ih | execute _ _ ih => exact fun answer => ih answer (hp answer)
  | append _ _ ih => exact fun answer => ⟨(hp answer).1, ih answer (hp answer).2⟩
  | listSearches _ _ _ _ _ => exact hp.1.elim

end PassesOverLog

/-- Whether the log adds its records does not show in the course of a plan that passes over it. -/
theorem alike_perform (around : Surroundings) (outcome outcome' : Nat → Except Failure Unit)
    (limit : Duration) {p : Plan α} (hp : p.PassesOverLog listing) (waited : Nat)
    {s s' : SessionState} (hs : s.SameCalls s') :
    (p.perform (around.withAppends outcome) limit waited s).Alike listing
      (p.perform (around.withAppends outcome') limit waited s') := by
  -- on the plan, for any two logs: after a record the logs of the two runs differ
  induction p generalizing waited s s' with
  | finish result => exact ⟨fun _ => rfl, fun _ => Iff.rfl, hs, rfl⟩
  | findTemplate _ _ ih | listTemplates _ ih | findOpportunity _ _ ih | listOpportunities _ ih =>
      obtain ⟨log, rfl⟩ := hs
      exact .ite (.cutOff limit ⟨log, rfl⟩) (ih _ (hp _) _ ⟨log, rfl⟩)
  | ask _ _ _ ih | execute _ _ ih =>
      obtain ⟨log, rfl⟩ := hs
      exact .after (.ite (.cutOff limit ⟨log, rfl⟩) (ih _ (hp _) _ ⟨log, rfl⟩)) rfl
  | append record next ih =>
      obtain ⟨log, rfl⟩ := hs
      have hstate : ∀ (stored stored' : Bool) (s : SessionState), SessionState.SameCalls
          (if stored then { s with log := s.log ++ [record] } else s)
          (if stored' then { s with log := log ++ [record] } else { s with log := log }) := by
        intro stored stored' s
        cases stored <;> cases stored' <;> exact ⟨_, rfl⟩
      have hnext : next (outcome' s.appends) = next (outcome s.appends) :=
        (hp _).1.trans (hp _).1.symm
      simp only [perform, Surroundings.withAppends, hnext]
      refine .after (.ite (.cutOff limit (hstate _ _ _)) ?_) rfl
      exact ih _ (hp _).2 _ (hstate _ _ { s with appends := s.appends + 1 })
  | listSearches caller offset count next _ =>
      obtain ⟨log, rfl⟩ := hs
      obtain ⟨hlisting, hlisted, hfailed⟩ := hp
      refine .after (.ite (.cutOff limit ⟨log, rfl⟩) ?_) rfl
      simp only [Surroundings.withAppends]
      cases (around.list s.listings).outcome with
      | ok =>
          obtain ⟨shown, hshown⟩ := hlisted (s.log.list caller offset count)
          obtain ⟨shown', hshown'⟩ := hlisted (SearchLog.list log caller offset count)
          simp only [Except.map, hshown, hshown']
          exact ⟨fun h => absurd hlisting h, by simp [perform], ⟨log, rfl⟩, rfl⟩
      | error reason =>
          obtain ⟨result, hresult⟩ := hfailed reason
          simp only [Except.map, hresult]
          exact ⟨fun _ => rfl, fun _ => Iff.rfl, ⟨log, rfl⟩, rfl⟩

end Plan

/-! ## The operations pass over the log -/

namespace Service

open Plan

theorem passesOverLog_execute (sql : Text) : (execute sql).PassesOverLog False := by
  intro answer
  cases answer <;> trivial

theorem passesOverLog_record (search : SavedSearch) : (record search).PassesOverLog False :=
  fun _ => ⟨rfl, trivial⟩

theorem passesOverLog_orInternal {α : Type} (answer : Except Failure α) :
    (orInternal answer).PassesOverLog False := by
  cases answer <;> trivial

/-- The steps from a statement on pass over the log. -/
theorem passesOverLog_finishSearch {α : Type} (maxRows : Int) (statement : Text)
    (report : Text → List Json → SavedSearch) (answer : Text → List Json → α) :
    (finishSearch maxRows statement report answer).PassesOverLog False := by
  refine .bind trivial fun sql => ?_
  refine .bind (passesOverLog_execute sql) fun rows => ?_
  exact .bind (passesOverLog_record _) fun _ => trivial

theorem passesOverLog_natural (maxRows : Int) (q : NaturalQuery) :
    (natural maxRows q).PassesOverLog False := by
  cases hempty : (Text.trim q.query).isEmpty with
  | true =>
      simp only [natural, hempty]
      trivial
  | false =>
      rw [natural_eq maxRows hempty]
      exact fun reply => passesOverLog_finishSearch _ _ _ _

theorem passesOverLog_byTemplate (maxRows : Int) (q : TemplateQuery) :
    (byTemplate maxRows q).PassesOverLog False := by
  obtain ⟨next, hplan, hfailed, hunknown, hrefused, hresolved⟩ := byTemplate_eq maxRows q
  rw [hplan]
  intro answer
  rcases answer with reason | _ | t
  · rw [hfailed]
    trivial
  · rw [hunknown]
    trivial
  · cases hresolve : t.resolve q.parameters with
    | error fault =>
        rw [hrefused t fault hresolve]
        trivial
    | ok resolved =>
        rw [hresolved t resolved hresolve]
        exact passesOverLog_finishSearch _ _ _ _

theorem passesOverLog_byOpportunity (maxRows : Int) (q : OpportunityQuery) :
    (byOpportunity maxRows q).PassesOverLog False := by
  cases hregion : OpportunityType.region q.borough with
  | error fault =>
      simp only [byOpportunity, hregion]
      trivial
  | ok borough =>
      obtain ⟨next, hplan, hfailed, hunknown, hfound⟩ := byOpportunity_eq maxRows hregion
      rw [hplan]
      intro answer
      rcases answer with reason | _ | o
      · rw [hfailed]
        trivial
      · rw [hunknown]
        trivial
      · rw [hfound]
        exact passesOverLog_finishSearch _ _ _ _

theorem passesOverLog_history (caller : Text) (cursor : Option Text) (count : Option Int) :
    (history caller cursor count).PassesOverLog True := by
  rcases history_cases caller cursor count with ⟨fault, hrefused⟩ | ⟨hcaller, offset, hcursor⟩
  · rw [hrefused]
    trivial
  · rw [history_of_standsFor hcaller hcursor]
    exact ⟨trivial, fun _ => ⟨_, rfl⟩, fun _ => ⟨_, rfl⟩⟩

end Service

namespace Router

open Plan Service

/-- Only the listing of saved searches shows the log. -/
theorem passesOverLog_operate (maxRows : Int) (query : Text) (r : HttpRequest) (e : Endpoint) :
    (operate maxRows query r e).PassesOverLog (e = .history) := by
  cases e with
  | health => trivial
  | natural =>
      refine .mono (.bind trivial fun q => ?_)
      exact .bind_finish (passesOverLog_natural maxRows q) _
  | templates =>
      refine .mono (.bind_finish ?_ _)
      exact passesOverLog_orInternal
  | byTemplate =>
      refine .mono (.bind trivial fun q => ?_)
      exact .bind_finish (passesOverLog_byTemplate maxRows q) _
  | opportunities =>
      refine .mono (.bind_finish ?_ _)
      exact passesOverLog_orInternal
  | byOpportunity =>
      refine .mono (.bind trivial fun q => ?_)
      exact .bind_finish (passesOverLog_byOpportunity maxRows q) _
  | history =>
      simp only [eq_self, operate]
      split
      · exact .bind_finish (passesOverLog_history _ _ _) _
      · trivial

end Router

/-! ## Two runs -/

/-- Whether a request is for a listing of saved searches. -/
def HttpRequest.ListsSearches (r : HttpRequest) : Prop :=
  Endpoint.ofPath? (Target.read r.target).path = some .history ∧ r.method = "GET".toList

/-- Two answers to a request that differ at most in a listing of saved searches, or in the headers
that tell its length. -/
structure HttpRequest.AnsweredAlike (r : HttpRequest) (a a' : HttpResponse) : Prop where
  status : a.status = a'.status
  body : ¬ r.ListsSearches → a.body = a'.body
  whole : Endpoint.ofPath? (Target.read r.target).path ≠ some .history → a = a'

/-- The answers to requests one after another in two runs, each with what happened: the requests
are answered alike, the same statements are executed in the same order, and for every request the
model and the log are called alike, too. -/
structure RunsAlike (requests : List HttpRequest) (run run' : List (HttpResponse × List Event)) :
    Prop where
  answered : run.length = requests.length ∧ run'.length = requests.length
  answers : ∀ (i : Nat) (r : HttpRequest), requests[i]? = some r →
    ∃ a a', run[i]? = some a ∧ run'[i]? = some a' ∧ r.AnsweredAlike a.1 a'.1
  executed : run.flatMap (·.2.filterMap Event.executed?) =
    run'.flatMap (·.2.filterMap Event.executed?)
  calls : run.map (·.2.map Event.call) = run'.map (·.2.map Event.call)

/-- One more request in front of two runs. -/
theorem RunsAlike.cons {r : HttpRequest} {requests : List HttpRequest}
    {a a' : HttpResponse × List Event} {run run' : List (HttpResponse × List Event)}
    (hanswers : r.AnsweredAlike a.1 a'.1) (hcalls : a.2.map Event.call = a'.2.map Event.call)
    (h : RunsAlike requests run run') : RunsAlike (r :: requests) (a :: run) (a' :: run') where
  answered := by simp [h.answered]
  answers i r' hr' := by
    cases i with
    | zero =>
        obtain rfl : r = r' := Option.some.inj hr'
        exact ⟨a, a', rfl, rfl, hanswers⟩
    | succ i => exact h.answers i r' hr'
  executed := by
    rw [List.flatMap_cons, List.flatMap_cons, Event.executed_eq_of_calls_eq hcalls, h.executed]
  calls := by rw [List.map_cons, List.map_cons, hcalls, h.calls]

namespace HttpRequest.AnsweredAlike

variable {r : HttpRequest} {a a' : HttpResponse}

theorem refl (r : HttpRequest) (a : HttpResponse) : r.AnsweredAlike a a where
  status := rfl
  body _ := rfl
  whole _ := rfl

theorem withHeaders (more : List (String × Text)) (h : r.AnsweredAlike a a') :
    r.AnsweredAlike (a.withHeaders more) (a'.withHeaders more) where
  status := h.status
  body := h.body
  whole hother := congrArg (HttpResponse.withHeaders more) (h.whole hother)

end HttpRequest.AnsweredAlike

namespace Router

variable (around : Surroundings) (outcome outcome' : Nat → Except Failure Unit) (limits : Limits)

/-- The answer that tells the result of an operation. -/
def responseOf (result : Except Fault Json) : HttpResponse :=
  match result with
  | .ok body => .json 200 body
  | .error fault => .ofFault fault

theorem status_responseOf_eq {listing : Prop} {c c' : Course Json} (h : c.Alike listing c') :
    (responseOf c.result).status = (responseOf c'.result).status := by
  cases hresult : c.result with
  | error fault => rw [(h.faults fault).1 hresult]
  | ok body =>
      cases hresult' : c'.result with
      | error fault =>
          rw [(h.faults fault).2 hresult'] at hresult
          cases hresult
      | ok body' => rfl

theorem alike_respond (r : HttpRequest) {s s' : SessionState} (hs : s.SameCalls s') :
    let a := respond (around.withAppends outcome) limits (Target.read r.target).query r s
      (Endpoint.ofPath? (Target.read r.target).path)
    let a' := respond (around.withAppends outcome') limits (Target.read r.target).query r s'
      (Endpoint.ofPath? (Target.read r.target).path)
    r.AnsweredAlike a.1 a'.1 ∧ a.2.1.SameCalls a'.2.1 ∧
      a.2.2.map Event.call = a'.2.2.map Event.call := by
  cases hendpoint : Endpoint.ofPath? (Target.read r.target).path with
  | none => exact ⟨.refl r _, hs, rfl⟩
  | some e =>
      have halike := Plan.alike_perform around outcome outcome' limits.timeout
        (passesOverLog_operate limits.maxRows (Target.read r.target).query r e) 0 hs
      simp only [respond]
      by_cases hfits : (if e.takesBody then r.method == "POST".toList
        else r.method == "HEAD".toList || r.method == "GET".toList) = true
      · simp only [if_pos hfits]
        refine ⟨⟨?status, ?body, ?whole⟩, halike.state, halike.calls⟩
        case status =>
          have hstatus := status_responseOf_eq halike
          split <;> exact hstatus
        case body =>
          intro hlisting
          by_cases hhead : (r.method == "HEAD".toList) = true
          · simp only [if_pos hhead]
            rfl
          · have hother : e ≠ .history := by
              rintro rfl
              have hmethod : (r.method == "HEAD".toList || r.method == "GET".toList) = true := hfits
              rw [Bool.not_eq_true] at hhead
              rw [hhead, Bool.false_or, beq_iff_eq] at hmethod
              exact hlisting ⟨hendpoint, hmethod⟩
            rw [halike.result hother]
        case whole =>
          intro hpath
          have hother : e ≠ .history := by
            rintro rfl
            exact hpath hendpoint
          rw [halike.result hother]
      · simp only [if_neg hfits]
        exact ⟨.refl r _, hs, trivial⟩

/-- One request in two runs that have made the same calls so far. -/
theorem alike_serve (r : HttpRequest) {s s' : SessionState} (hs : s.SameCalls s') :
    let a := serve (around.withAppends outcome) limits r s
    let a' := serve (around.withAppends outcome') limits r s'
    r.AnsweredAlike a.1 a'.1 ∧ a.2.1.SameCalls a'.2.1 ∧
      a.2.2.map Event.call = a'.2.2.map Event.call := by
  obtain ⟨hanswers, hstate, hcalls⟩ := alike_respond around outcome outcome' limits r hs
  simp only [serve]
  split
  · exact ⟨.refl r _, hs, rfl⟩
  · exact ⟨hanswers.withHeaders _, hstate, hcalls⟩

theorem runsAlike_serveAll (requests : List HttpRequest) {s s' : SessionState}
    (hs : s.SameCalls s') :
    RunsAlike requests (serveAll (around.withAppends outcome) limits requests s)
      (serveAll (around.withAppends outcome') limits requests s') := by
  induction requests generalizing s s' with
  | nil =>
      refine ⟨⟨rfl, rfl⟩, fun i r hr => ?_, rfl, rfl⟩
      cases hr
  | cons r requests ih =>
      obtain ⟨hanswers, hstate, hcalls⟩ := alike_serve around outcome outcome' limits r hs
      exact .cons hanswers hcalls (ih hstate)

/-- Whether the records of searches can be added to the log shows in no answer but a listing of
saved searches, and in no call that is made. -/
theorem serveAll_withAppends (requests : List HttpRequest) (s : SessionState) :
    RunsAlike requests (serveAll (around.withAppends outcome) limits requests s)
      (serveAll (around.withAppends outcome') limits requests s) :=
  runsAlike_serveAll around outcome outcome' limits requests ⟨s.log, rfl⟩

end Router

end LotSearch
