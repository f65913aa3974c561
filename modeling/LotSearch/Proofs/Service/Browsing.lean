import LotSearch.Proofs.Page.Cursor
import LotSearch.Proofs.Statement.RowBound
import LotSearch.Service.Operations
import LotSearch.Service.Script

/-!
# Browsing the saved searches of a caller

A caller reads a listing page by page, each page at the cursor that the one before it gave, while
searches of any callers go on being added.  A new search of the caller moves all older ones one
place back, so a page may repeat what an earlier page showed; nothing is left out.
-/

namespace LotSearch

/-! ## The listing of a caller -/

namespace SearchLog

theorem numbered_append (log more : SearchLog) :
    numbered (log ++ more) =
      numbered log ++ (more.zipIdx log.length).map fun entry => ⟨entry.2 + 1, entry.1⟩ := by
  rw [numbered, List.zipIdx_append, List.map_append, Nat.zero_add]
  rfl

/-- A search that is added stands before all older ones, in the listing of its caller only. -/
theorem ofCaller_append_singleton (caller : Text) (log : SearchLog) (record : SavedSearch) :
    ofCaller caller (log ++ [record]) =
      (if record.callerId = some caller then [⟨log.length + 1, record⟩] else []) ++
        ofCaller caller log := by
  have hnumbered : numbered (log ++ [record]) = numbered log ++ [⟨log.length + 1, record⟩] := by
    rw [numbered_append]
    rfl
  rw [ofCaller, hnumbered, List.reverse_append, List.filter_append]
  congr 1
  by_cases h : record.callerId = some caller <;> simp [h]

theorem ofCaller_append_of_others {caller : Text} (log : SearchLog) {more : List SavedSearch}
    (h : ∀ record ∈ more, record.callerId ≠ some caller) :
    ofCaller caller (log ++ more) = ofCaller caller log := by
  induction more generalizing log with
  | nil => rw [List.append_nil]
  | cons record more ih =>
      obtain ⟨hrecord, hmore⟩ := List.forall_mem_cons.1 h
      have hsplit : log ++ record :: more = log ++ [record] ++ more := by simp
      rw [hsplit, ih _ hmore, ofCaller_append_singleton, if_neg hrecord]
      rfl

theorem length_ofCaller_le (caller : Text) (log : SearchLog) :
    (ofCaller caller log).length ≤ log.length := by
  have hfilter := List.length_filter_le
    (fun r : LoggedSearch => r.search.callerId == some caller) (numbered log).reverse
  simpa [ofCaller, numbered] using hfilter

theorem number_le_of_mem_ofCaller {caller : Text} {log : SearchLog} {r : LoggedSearch}
    (h : r ∈ ofCaller caller log) : r.number ≤ log.length := by
  have hmem : r ∈ numbered log := List.mem_reverse.1 (List.mem_of_mem_filter h)
  obtain ⟨entry, hentry, rfl⟩ := List.mem_map.1 hmem
  exact List.snd_lt_of_mem_zipIdx hentry

theorem pairwise_ofCaller (caller : Text) (log : SearchLog) :
    (ofCaller caller log).Pairwise fun r older => older.number < r.number := by
  induction log using List.reverseRecOn with
  | nil => exact List.Pairwise.nil
  | append_singleton log record ih =>
      rw [ofCaller_append_singleton]
      split
      · refine List.pairwise_cons.2 ⟨fun older holder => ?_, ih⟩
        exact Nat.lt_succ_of_le (number_le_of_mem_ofCaller holder)
      · exact ih

end SearchLog

/-! ## One page -/

namespace Service

def pageLimit (limit : Option Int) : Int := Statement.clampRows (limit.getD defaultPageSize)

theorem pageLimit_bounds (limit : Option Int) : 1 ≤ pageLimit limit ∧ pageLimit limit ≤ 100 :=
  ⟨Statement.clampRows_pos _, Statement.clampRows_le _⟩

/-- Whether a cursor, or its absence, stands for a number of entries before a page. -/
def StandsFor (cursor : Option Text) (offset : Int) : Prop :=
  match cursor with
  | none => offset = 0
  | some text => Page.decodeCursor text = .ok offset

theorem history_of_blank {caller : Text} (hcaller : (Text.trim caller).isEmpty = true)
    (cursor : Option Text) (limit : Option Int) :
    history caller cursor limit =
      .finish (.error (.invalidRequest "userId is required".toList)) := by
  simp only [history, hcaller]
  rfl

theorem history_of_standsFor {caller : Text} (hcaller : (Text.trim caller).isEmpty = false)
    {cursor : Option Text} {offset : Int} (hcursor : StandsFor cursor offset)
    (limit : Option Int) :
    history caller cursor limit =
      .listSearches (Text.trim caller) offset (pageLimit limit) fun answer => do
        let results ← Plan.orInternal answer
        return ⟨results, Page.ofFetched offset (pageLimit limit) results.length⟩ := by
  cases cursor with
  | none =>
      obtain rfl : offset = 0 := hcursor
      simp only [history, hcaller]
      rfl
  | some text =>
      have hdecode : Page.decodeCursor text = .ok offset := hcursor
      simp only [history, hcaller, hdecode]
      rfl

theorem history_cases (caller : Text) (cursor : Option Text) (limit : Option Int) :
    (∃ fault, history caller cursor limit = .finish (.error fault)) ∨
      (Text.trim caller).isEmpty = false ∧ ∃ offset, StandsFor cursor offset := by
  cases hcaller : (Text.trim caller).isEmpty with
  | true => exact .inl ⟨_, history_of_blank hcaller cursor limit⟩
  | false =>
      cases cursor with
      | none => exact .inr ⟨rfl, 0, rfl⟩
      | some text =>
          cases hdecode : Page.decodeCursor text with
          | ok offset => exact .inr ⟨rfl, offset, hdecode⟩
          | error fault =>
              refine .inl ⟨fault, ?_⟩
              simp only [history, hcaller, hdecode]
              rfl

variable {around : Surroundings} {deadline : Duration}

/-- A log that can be listed before the deadline. -/
def Listable (around : Surroundings) (deadline : Duration) : Prop :=
  ∀ n, (around.list n).outcome = .ok () ∧ (around.list n).wait ≤ deadline.milliseconds

theorem perform_history (hlist : Listable around deadline) {caller : Text}
    (hcaller : (Text.trim caller).isEmpty = false) {cursor : Option Text} {offset : Int}
    (hcursor : StandsFor cursor offset) (limit : Option Int) (s : SessionState) :
    (history caller cursor limit).perform around deadline 0 s =
      ⟨.ok ⟨s.log.list (Text.trim caller) offset (pageLimit limit),
          Page.ofFetched offset (pageLimit limit)
            (s.log.list (Text.trim caller) offset (pageLimit limit)).length⟩,
        { s with listings := s.listings + 1 },
        [.listed (Text.trim caller) offset (pageLimit limit)]⟩ := by
  obtain ⟨houtcome, hwait⟩ := hlist s.listings
  have hlate : ¬ deadline.milliseconds < 0 + (around.list s.listings).wait := by omega
  rw [history_of_standsFor hcaller hcursor, Plan.perform]
  simp only [houtcome, if_neg hlate]
  rfl

/-- A listing adds nothing to the log, also when it fails. -/
theorem log_history (around : Surroundings) (deadline : Duration) (caller : Text)
    (cursor : Option Text) (limit : Option Int) (s : SessionState) :
    ((history caller cursor limit).perform around deadline 0 s).state.log = s.log := by
  rcases history_cases caller cursor limit with ⟨fault, hrefused⟩ | ⟨hcaller, offset, hcursor⟩
  · rw [hrefused]
    rfl
  · rw [history_of_standsFor hcaller hcursor, Plan.perform]
    simp only [Course.after]
    split
    · rfl
    · cases (around.list s.listings).outcome <;> rfl

end Service

/-! ## Browsing -/

/-- What happens while a listing is browsed: a search is added to the log, or the next page is
asked for. -/
inductive Move where
  | add (record : SavedSearch)
  | turn

namespace Move

def added? : Move → Option SavedSearch
  | add record => some record
  | turn => none

def isTurn : Move → Bool
  | add _ => false
  | turn => true

end Move

inductive Progress where
  | next (cursor : Option Text)
  | ended
  | broken (fault : Fault)

/-- The session in which a listing is browsed, how it goes on, and what was shown so far. -/
structure Browsing where
  session : SessionState
  progress : Progress
  seen : List LoggedSearch

namespace Browsing

def start (s : SessionState) : Browsing := ⟨s, .next none, []⟩

def listing (caller : Text) (b : Browsing) : List LoggedSearch :=
  SearchLog.ofCaller caller b.session.log

variable (around : Surroundings) (deadline : Duration) (caller : Text) (limit : Option Int)

/-- The next page is asked for; the page without a cursor for a next one is the last. -/
def turn (b : Browsing) : Browsing :=
  match b.progress with
  | .next cursor =>
      let c := (Service.history caller cursor limit).perform around deadline 0 b.session
      match c.result with
      | .ok shown =>
          ⟨c.state, (shown.page.next.map fun cursor => .next (some cursor)).getD .ended,
            b.seen ++ shown.results⟩
      | .error fault => ⟨c.state, .broken fault, b.seen⟩
  | .ended => b
  | .broken _ => b

def step (b : Browsing) : Move → Browsing
  | .add record => { b with session := { b.session with log := b.session.log ++ [record] } }
  | .turn => b.turn around deadline caller limit

def run (moves : List Move) (b : Browsing) : Browsing :=
  moves.foldl (step around deadline caller limit) b

theorem log_turn (b : Browsing) :
    (b.turn around deadline caller limit).session.log = b.session.log := by
  obtain ⟨session, progress, seen⟩ := b
  cases progress with
  | next cursor =>
      have hlog := Service.log_history around deadline caller cursor limit session
      simp only [turn]
      split <;> exact hlog
  | ended => rfl
  | broken fault => rfl

theorem log_run (moves : List Move) (b : Browsing) :
    (run around deadline caller limit moves b).session.log =
      b.session.log ++ moves.filterMap Move.added? := by
  induction moves generalizing b with
  | nil => exact (List.append_nil _).symm
  | cons move moves ih =>
      refine (ih _).trans ?_
      cases move with
      | add record => simp [step, Move.added?]
      | turn => rw [step, log_turn]; rfl

def page (caller : Text) (offset size : Nat) (b : Browsing) : List LoggedSearch :=
  ((b.listing caller).drop offset).take size

variable {around deadline caller limit}

theorem turn_eq (hlist : Service.Listable around deadline) (htrim : Text.trim caller = caller)
    (hcaller : caller ≠ []) {size : Nat} (hsize : Service.pageLimit limit = size) {b : Browsing}
    {cursor : Option Text} (hnext : b.progress = .next cursor) {offset : Nat}
    (hcursor : Service.StandsFor cursor offset) :
    b.turn around deadline caller limit =
      ⟨{ b.session with listings := b.session.listings + 1 },
        if size ≤ (b.page caller offset size).length then
          .next (some (Page.encodeCursor (offset + size)))
        else .ended,
        b.seen ++ b.page caller offset size⟩ := by
  have hblank : (Text.trim caller).isEmpty = false := by
    simpa [htrim] using hcaller
  have hpage : b.session.log.list caller offset size = b.page caller offset size := rfl
  have hperform := Service.perform_history hlist hblank hcursor limit b.session
  rw [htrim, hsize, hpage] at hperform
  have hcount : Page.signedCount (b.page caller offset size).length =
      (b.page caller offset size).length := by
    have hlength : (b.page caller offset size).length ≤ size := List.length_take_le _ _
    have hbounds := Service.pageLimit_bounds limit
    apply Int.bmod_eq_of_le <;> omega
  rw [turn, hnext]
  simp only [hperform, Page.ofFetched, hcount, Int.ofNat_le]
  split <;> rfl

end Browsing

/-! ## What is shown -/

/-- The part of a listing on the page behind `offset` entries, when `old` was there before the
browsing began: what the pages so far hold of it grows by that part. -/
theorem mem_of_mem_take {α : Type} {newer old : List α} {offset size : Nat} {a : α}
    (h : a ∈ old.take (offset + size - newer.length)) :
    a ∈ old.take (offset - newer.length) ∨ a ∈ ((newer ++ old).drop offset).take size := by
  have hsplit : offset + size - newer.length =
      (offset - newer.length) + (size - (newer.length - offset)) := by omega
  rw [hsplit, List.take_add] at h
  refine (List.mem_append.1 h).imp_right fun hpage => ?_
  rw [List.drop_append, List.take_append, List.length_drop]
  exact List.mem_append_right _ hpage

/-- How far `seen` covers the searches `old` after `turns` pages of `size` searches, when the
searches `newer` were added since the first page. -/
def Progress.Covers (size turns : Nat) (newer old seen : List LoggedSearch) : Progress → Prop
  | next cursor =>
      Service.StandsFor cursor (turns * size : Nat) ∧ turns * size ≤ (newer ++ old).length ∧
        (∀ r ∈ old.take (turns * size - newer.length), r ∈ seen) ∧
        (newer = [] → seen = old.take (turns * size))
  | ended => (∀ r ∈ old, r ∈ seen) ∧ (newer = [] → seen = old)
  | broken _ => False

/-- The page at the cursor is the next part of the old searches, except for what an earlier page
showed of them. -/
theorem Progress.Covers.page {size turns : Nat} {newer old seen : List LoggedSearch}
    {cursor : Option Text} (h : (Progress.next cursor).Covers size turns newer old seen) :
    (∀ r ∈ old.take ((turns + 1) * size - newer.length),
        r ∈ seen ++ ((newer ++ old).drop (turns * size)).take size) ∧
      (newer = [] → seen ++ ((newer ++ old).drop (turns * size)).take size =
        old.take ((turns + 1) * size)) := by
  obtain ⟨-, -, hseen, honce⟩ := h
  constructor
  · intro r hr
    rw [Nat.succ_mul] at hr
    exact List.mem_append.2 ((mem_of_mem_take hr).imp_left (hseen r))
  · intro hnone
    rw [hnone, List.nil_append, honce hnone, Nat.succ_mul, List.take_add]

/-- The state of a browsing in which nothing was left out so far. -/
structure OnTrack (caller : Text) (old : List LoggedSearch) (size turns : Nat) (b : Browsing) :
    Prop where
  listing : ∃ newer, b.listing caller = newer ++ old ∧
    b.progress.Covers size turns newer old b.seen
  own : ∀ r ∈ b.seen, r ∈ b.listing caller

namespace OnTrack

variable {around : Surroundings} {deadline : Duration} {caller : Text} {limit : Option Int}
  {old : List LoggedSearch} {turns : Nat} {b : Browsing}

theorem start (caller : Text) (size : Nat) (s : SessionState) :
    OnTrack caller (SearchLog.ofCaller caller s.log) size 0 (.start s) := by
  refine ⟨⟨[], rfl, ?_, ?_, ?_, ?_⟩, ?_⟩
  · simp [Service.StandsFor]
  · simp
  · simp
  · simp [Browsing.start]
  · simp [Browsing.start]

theorem add {size : Nat} (h : OnTrack caller old size turns b) (record : SavedSearch) :
    OnTrack caller old size turns (b.step around deadline caller limit (.add record)) := by
  obtain ⟨⟨newer, hlisting, hcovers⟩, hown⟩ := h
  have hadded : (b.step around deadline caller limit (.add record)).listing caller =
      (if record.callerId = some caller then [⟨b.session.log.length + 1, record⟩] else []) ++
        b.listing caller := SearchLog.ofCaller_append_singleton caller b.session.log record
  by_cases hcaller : record.callerId = some caller
  · rw [if_pos hcaller] at hadded
    refine ⟨⟨⟨b.session.log.length + 1, record⟩ :: newer, ?_, ?_⟩, ?_⟩
    · rw [hadded, hlisting]
      rfl
    · change b.progress.Covers size turns _ old b.seen
      revert hcovers
      cases b.progress with
      | next cursor =>
          -- `old` moved back by one, so the pages so far cover one search less of it
          rintro ⟨hcursor, hle, hseen, -⟩
          refine ⟨hcursor, Nat.le_succ_of_le hle, fun r hr => hseen r ?_, fun h => by cases h⟩
          exact List.take_subset_take_left old (by simp; omega) hr
      | ended => exact fun hcovers => ⟨hcovers.1, fun h => by cases h⟩
      | broken fault => exact id
    · intro r hr
      rw [hadded]
      exact List.mem_cons_of_mem _ (hown r hr)
  · rw [if_neg hcaller, List.nil_append] at hadded
    exact ⟨⟨newer, hadded.trans hlisting, hcovers⟩, fun r hr => hadded ▸ hown r hr⟩

theorem turn (hlist : Service.Listable around deadline) (htrim : Text.trim caller = caller)
    (hcaller : caller ≠ []) {size : Nat} (hsize : Service.pageLimit limit = size)
    (hlog : (b.session.log.length : Int) ≤ maxInt64) (h : OnTrack caller old size turns b) :
    OnTrack caller old size (turns + 1) (b.step around deadline caller limit .turn) := by
  obtain ⟨⟨newer, hlisting, hcovers⟩, hown⟩ := h
  cases hprogress : b.progress with
  | broken fault =>
      rw [hprogress] at hcovers
      exact hcovers.elim
  | ended =>
      have hstay : b.step around deadline caller limit .turn = b := by
        rw [Browsing.step, Browsing.turn, hprogress]
      rw [hprogress] at hcovers
      rw [hstay]
      exact ⟨⟨newer, hlisting, hprogress ▸ hcovers⟩, hown⟩
  | next cursor =>
      rw [hprogress] at hcovers
      obtain ⟨hcovered, hexact⟩ := hcovers.page
      obtain ⟨hcursor, hle, -, -⟩ := hcovers
      have hturn := Browsing.turn_eq hlist htrim hcaller hsize hprogress hcursor
      have hpage : b.page caller (turns * size) size =
          ((newer ++ old).drop (turns * size)).take size := by
        rw [Browsing.page, hlisting]
      have hlength : (newer ++ old).length ≤ b.session.log.length := by
        rw [← hlisting]
        exact SearchLog.length_ofCaller_le caller b.session.log
      rw [← hpage] at hcovered hexact
      rw [Browsing.step, hturn]
      refine ⟨⟨newer, hlisting, ?_⟩, ?_⟩
      · split
        · -- a full page has a cursor even if nothing is left, and the last page is empty then
          next hfull =>
            have hnext : turns * size + size ≤ (newer ++ old).length := by
              rw [hpage, List.length_take, List.length_drop] at hfull
              omega
            refine ⟨?_, by rwa [Nat.succ_mul], hcovered, hexact⟩
            rw [Nat.succ_mul, Nat.cast_add]
            apply Page.decodeCursor_encodeCursor
            · omega
            · omega
        · next hfull =>
            have hall : (newer ++ old).length ≤ (turns + 1) * size := by
              rw [hpage, List.length_take, List.length_drop] at hfull
              rw [Nat.succ_mul]
              omega
            have hold : old.length ≤ (turns + 1) * size - newer.length := by
              rw [List.length_append] at hall
              omega
            rw [List.take_of_length_le hold] at hcovered
            rw [List.take_of_length_le (by omega)] at hexact
            exact ⟨hcovered, hexact⟩
      · intro r hr
        rcases List.mem_append.1 hr with hr | hr
        · exact hown r hr
        · exact List.mem_of_mem_drop (List.mem_of_mem_take hr)

theorem run (hlist : Service.Listable around deadline) (htrim : Text.trim caller = caller)
    (hcaller : caller ≠ []) {size : Nat} (hsize : Service.pageLimit limit = size)
    {moves : List Move}
    (hlog : ((b.session.log ++ moves.filterMap Move.added?).length : Int) ≤ maxInt64)
    (h : OnTrack caller old size turns b) :
    OnTrack caller old size (turns + moves.countP Move.isTurn)
      (b.run around deadline caller limit moves) := by
  induction moves generalizing turns b with
  | nil => exact h
  | cons move moves ih =>
      cases move with
      | add record =>
          refine ih ?_ (h.add record)
          simpa [Browsing.step, Move.added?] using hlog
      | turn =>
          have hlength : (b.session.log.length : Int) ≤ maxInt64 := by
            rw [List.length_append] at hlog
            omega
          have hrest := ih ?_ (h.turn hlist htrim hcaller hsize hlength)
          · rw [List.countP_cons, Move.isTurn, if_pos rfl, Nat.add_comm _ 1, ← Nat.add_assoc]
            exact hrest
          · rw [Browsing.step, Browsing.log_turn]
            exact hlog

end OnTrack

/-! ## Whole listings -/

/-- What browsing with `moves` from a session guarantees to a caller. -/
structure Covered (caller : Text) (size : Nat) (s : SessionState) (moves : List Move)
    (b : Browsing) : Prop where
  unbroken : ∀ fault, b.progress ≠ .broken fault
  own : ∀ r ∈ b.seen, r ∈ b.listing caller
  complete : b.progress = .ended → ∀ r ∈ SearchLog.ofCaller caller s.log, r ∈ b.seen
  once : (∀ record ∈ moves.filterMap Move.added?, record.callerId ≠ some caller) →
    b.progress = .ended → b.seen = SearchLog.ofCaller caller s.log ∧
      b.seen.Pairwise fun r older => older.number < r.number
  ends : (b.listing caller).length < moves.countP Move.isTurn * size → b.progress = .ended

/-- Whether a caller who browses the listing, at any limit and while any searches are added, is
shown every search.  The log is no longer than the numbers that a cursor can hold. -/
def PagesCover (caller : Text) : Prop :=
  ∀ (around : Surroundings) (deadline : Duration) (limit : Option Int) (s : SessionState)
    (moves : List Move), Service.Listable around deadline →
    ((s.log ++ moves.filterMap Move.added?).length : Int) ≤ maxInt64 →
    Covered caller (Service.pageLimit limit).toNat s moves
      (Browsing.run around deadline caller limit moves (.start s))

theorem OnTrack.covered {caller : Text} {size : Nat} {s : SessionState} {moves : List Move}
    {b : Browsing}
    (h : OnTrack caller (SearchLog.ofCaller caller s.log) size (moves.countP Move.isTurn) b)
    (hlog : b.session.log = s.log ++ moves.filterMap Move.added?) :
    Covered caller size s moves b := by
  obtain ⟨⟨newer, hlisting, hcovers⟩, hown⟩ := h
  refine ⟨fun fault hbroken => ?_, hown, fun hended => ?_, fun hothers hended => ?_,
    fun hlong => ?_⟩
  · rw [hbroken] at hcovers
    exact hcovers
  · rw [hended] at hcovers
    exact hcovers.1
  · have hsame : b.listing caller = SearchLog.ofCaller caller s.log := by
      rw [Browsing.listing, hlog, SearchLog.ofCaller_append_of_others _ hothers]
    have hnone : newer = [] := List.append_left_eq_self.1 (hlisting.symm.trans hsame)
    rw [hended] at hcovers
    rw [hcovers.2 hnone]
    exact ⟨rfl, SearchLog.pairwise_ofCaller caller s.log⟩
  · cases hprogress : b.progress with
    | ended => rfl
    | next cursor =>
        rw [hprogress] at hcovers
        rw [hlisting] at hlong
        exact absurd hcovers.2.1 (by omega)
    | broken fault =>
        rw [hprogress] at hcovers
        exact hcovers.elim

theorem covered_run {around : Surroundings} {deadline : Duration} {caller : Text}
    (hlist : Service.Listable around deadline) (hcaller : caller ≠ [])
    (htrim : Text.trim caller = caller) (limit : Option Int) {s : SessionState}
    {moves : List Move}
    (hlog : ((s.log ++ moves.filterMap Move.added?).length : Int) ≤ maxInt64) :
    Covered caller (Service.pageLimit limit).toNat s moves
      (Browsing.run around deadline caller limit moves (.start s)) := by
  have hsize : Service.pageLimit limit = ((Service.pageLimit limit).toNat : Int) := by
    have hbounds := Service.pageLimit_bounds limit
    omega
  have htrack := (OnTrack.start caller (Service.pageLimit limit).toNat s).run hlist htrim hcaller
    hsize hlog
  rw [Nat.zero_add] at htrack
  exact htrack.covered (Browsing.log_run _ _ _ _ moves (.start s))

/-- A caller whose name is not blank and has no blanks around it is shown every search. -/
theorem pagesCover {caller : Text} (hcaller : caller ≠ []) (htrim : Text.trim caller = caller) :
    PagesCover caller :=
  fun _ _ limit _ _ hlist hlog => covered_run hlist hcaller htrim limit hlog

def lotsFor (caller : String) : SavedSearch :=
  ⟨some caller.toList, "Lots".toList, .template, none, none, none, 0⟩

theorem listable_script : Service.Listable ({} : Script).surroundings (.ofSeconds 30) :=
  fun _ => ⟨rfl, Nat.zero_le _⟩

/-- A search that is added behind the first page shows one search again, and hides none. -/
theorem pagesCover_ada :
    "ada".toList ≠ [] ∧ Text.trim "ada".toList = "ada".toList ∧
      ((Browsing.run ({} : Script).surroundings (.ofSeconds 30) "ada".toList (some 1)
        [.turn, .add (lotsFor "ada"), .turn, .turn, .turn]
        (.start { log := [lotsFor "ada", lotsFor "bob", lotsFor "ada"] })).seen.map
          LoggedSearch.number = [3, 3, 1]) ∧
      Covered "ada".toList 1 { log := [lotsFor "ada", lotsFor "bob", lotsFor "ada"] }
        [.turn, .add (lotsFor "ada"), .turn, .turn, .turn]
        (Browsing.run ({} : Script).surroundings (.ofSeconds 30) "ada".toList (some 1)
          [.turn, .add (lotsFor "ada"), .turn, .turn, .turn]
          (.start { log := [lotsFor "ada", lotsFor "bob", lotsFor "ada"] })) :=
  ⟨by decide, by decide, by decide +kernel,
    pagesCover (by decide) (by decide) _ _ (some 1) _ _ listable_script (by decide)⟩

/-- A blank name is refused, and the searches of a name with blanks around it are looked for under
the name without them. -/
theorem not_pagesCover_blanks : ¬ PagesCover [' '] ∧ ¬ PagesCover " ada ".toList := by
  constructor
  · intro h
    have hcovered := h ({} : Script).surroundings (.ofSeconds 30) none { log := [lotsFor " "] }
      [.turn] listable_script (by decide)
    exact hcovered.unbroken _ rfl
  · intro h
    have hcovered := h ({} : Script).surroundings (.ofSeconds 30) none
      { log := [lotsFor " ada "] } [.turn] listable_script (by decide)
    have hseen := hcovered.complete rfl ⟨1, lotsFor " ada "⟩ (.head _)
    exact List.not_mem_nil hseen

end LotSearch
