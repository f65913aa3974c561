import LotSearch.Proofs.Page.Offset
import LotSearch.Proofs.Service.Browsing

/-!
# Offsets within 64 bits

A cursor can stand for any offset of 64 bits, and the offset of the next page is a sum that nothing
checks.  It is computed only for a full page.  A log that lists by skipping and taking has no full
page unless it holds as many records as the sum, so the sum is within 64 bits where the size of the
log is.
-/

namespace LotSearch

/-! ## Pages -/

namespace Page

/-- A result of arithmetic, unless it overflows 64 bits. -/
def within64? (n : Int) : Option Int := if minInt64 ≤ n ∧ n ≤ maxInt64 then some n else none

/-- The page at an offset, unless its computation overflows 64 bits.  The difference cannot: it
stops at the ends of the range. -/
def ofFetched64? (offset limit : Int) (fetched : Nat) : Option Page := do
  let next ←
    if limit ≤ signedCount fetched then (within64? (offset + limit)).map (some ∘ encodeCursor)
    else some none
  let previous :=
    if 0 < offset then some (encodeCursor (max minInt64 (min (offset - limit) maxInt64))) else none
  return ⟨next, previous, limit⟩

/-- A sum overflows only for a full page. -/
theorem ofFetched64?_eq_some_iff {offset limit : Int} {fetched : Nat}
    (hoffset : 0 ≤ offset ∧ offset ≤ maxInt64) (hlimit : 1 ≤ limit ∧ limit ≤ 100) :
    ofFetched64? offset limit fetched = some (ofFetched offset limit fetched) ↔
      (limit ≤ signedCount fetched → offset + limit ≤ maxInt64) := by
  have hdifference : max minInt64 (min (offset - limit) maxInt64) =
      min (offset - limit) maxInt64 := by
    apply max_eq_right
    simp only [minInt64, maxInt64] at hoffset ⊢
    omega
  have hlow : minInt64 ≤ offset + limit := by
    simp only [minInt64]
    omega
  by_cases hfull : limit ≤ signedCount fetched
  · by_cases hsum : offset + limit ≤ maxInt64
    · simp [ofFetched64?, ofFetched, within64?, hfull, hsum, hlow, hdifference]
    · simp [ofFetched64?, within64?, hfull, hsum]
  · simp [ofFetched64?, ofFetched, hfull, hdifference]

end Page

namespace SearchLog

/-- What is skipped before a full page and the page itself are records of the log. -/
theorem add_le_length_of_full {log : SearchLog} {caller : Text} {offset limit : Int}
    (hoffset : 0 ≤ offset) (hlimit : 1 ≤ limit)
    (hfull : limit ≤ (log.list caller offset limit).length) : offset + limit ≤ log.length := by
  have hlength := length_ofCaller_le caller log
  rw [list, List.length_take, List.length_drop] at hfull
  omega

theorem signedCount_length_list {log : SearchLog} {caller : Text} {offset limit : Int}
    (hlimit : limit ≤ 100) :
    Page.signedCount (log.list caller offset limit).length =
      (log.list caller offset limit).length := by
  have hlength : (log.list caller offset limit).length ≤ limit.toNat := List.length_take_le _ _
  apply Int.bmod_eq_of_le <;> omega

/-- No page of a log overflows when the size of the log is within 64 bits. -/
theorem ofFetched64?_list {log : SearchLog} (hlog : (log.length : Int) ≤ maxInt64) (caller : Text)
    {offset limit : Int} (hoffset : 0 ≤ offset ∧ offset ≤ maxInt64)
    (hlimit : 1 ≤ limit ∧ limit ≤ 100) :
    Page.ofFetched64? offset limit (log.list caller offset limit).length =
      some (Page.ofFetched offset limit (log.list caller offset limit).length) := by
  rw [Page.ofFetched64?_eq_some_iff hoffset hlimit, signedCount_length_list hlimit.2]
  intro hfull
  exact (add_le_length_of_full hoffset.1 hlimit.1 hfull).trans hlog

end SearchLog

/-! ## The history of a caller -/

namespace Service

theorem StandsFor.bounds {cursor : Option Text} {offset : Int} (h : StandsFor cursor offset) :
    0 ≤ offset ∧ offset ≤ maxInt64 := by
  cases cursor with
  | none =>
      obtain rfl : offset = 0 := h
      decide
  | some text => exact Page.bounds_of_decodeCursor h

/-- How a history can go: it is refused before the log is called, or the log is called once, and
then it fails or shows a page of the log. -/
theorem perform_history_cases (around : Surroundings) (deadline : Duration) (waited : Nat)
    (s : SessionState) (caller : Text) (cursor : Option Text) (limit : Option Int) :
    let c := (history caller cursor limit).perform around deadline waited s
    (c.events = [] ∧ ∃ fault, c.result = .error fault) ∨
      ∃ offset, StandsFor cursor offset ∧
        c.events = [.listed (Text.trim caller) offset (pageLimit limit)] ∧
        ((∃ fault, c.result = .error fault) ∨
          c.result = .ok ⟨s.log.list (Text.trim caller) offset (pageLimit limit),
            Page.ofFetched offset (pageLimit limit)
              (s.log.list (Text.trim caller) offset (pageLimit limit)).length⟩) := by
  intro c
  rcases history_cases caller cursor limit with ⟨fault, hrefused⟩ | ⟨hcaller, offset, hcursor⟩
  · left
    refine ⟨?_, fault, ?_⟩
    · simp only [c, hrefused, Plan.perform]
    · simp only [c, hrefused, Plan.perform]
  · right
    refine ⟨offset, hcursor, ?_⟩
    simp only [c, history_of_standsFor hcaller hcursor, Plan.perform, Course.after]
    split
    · exact ⟨rfl, .inl ⟨_, rfl⟩⟩
    · cases (around.list s.listings).outcome with
      | error reason => exact ⟨rfl, .inl ⟨_, rfl⟩⟩
      | ok _ => exact ⟨rfl, .inr rfl⟩

/-- Whatever a caller asks for, the log is called with an offset and a limit in their ranges, and
the page that is shown was computed without an overflow. -/
theorem history_within64 {s : SessionState} (hlog : (s.log.length : Int) ≤ maxInt64)
    (around : Surroundings) (deadline : Duration) (waited : Nat) (caller : Text)
    (cursor : Option Text) (limit : Option Int) :
    let c := (history caller cursor limit).perform around deadline waited s
    (∀ e ∈ c.events, ∃ offset size, e = .listed (Text.trim caller) offset size ∧
      (0 ≤ offset ∧ offset ≤ maxInt64) ∧ 1 ≤ size ∧ size ≤ 100) ∧
    ∀ shown, c.result = .ok shown →
      ∃ offset size, c.events = [.listed (Text.trim caller) offset size] ∧
        Page.ofFetched64? offset size shown.results.length = some shown.page := by
  intro c
  rcases perform_history_cases around deadline waited s caller cursor limit with
    ⟨hevents, fault, hresult⟩ | ⟨offset, hcursor, hevents, hresult⟩
  · refine ⟨fun e he => ?_, fun shown hshown => ?_⟩
    · rw [hevents] at he
      cases he
    · rw [hresult] at hshown
      cases hshown
  · refine ⟨fun e he => ?_, fun shown hshown => ⟨offset, pageLimit limit, hevents, ?_⟩⟩
    · rw [hevents, List.mem_singleton] at he
      exact ⟨offset, pageLimit limit, he, hcursor.bounds, pageLimit_bounds limit⟩
    · rcases hresult with ⟨fault, hfault⟩ | hok
      · rw [hfault] at hshown
        cases hshown
      · obtain rfl := Except.ok.inj (hok.symm.trans hshown)
        exact SearchLog.ofFetched64?_list hlog _ hcursor.bounds (pageLimit_bounds limit)

theorem history_within64_ada :
    let s : SessionState := { log := [lotsFor "ada", lotsFor "bob", lotsFor "ada"] }
    let c := (history "ada".toList (some (Page.encodeCursor 1)) (some 1)).perform
      ({} : Script).surroundings (.ofSeconds 30) 0 s
    (s.log.length : Int) ≤ maxInt64 ∧ ∃ shown offset size, c.result = .ok shown ∧
      c.events = [.listed "ada".toList offset size] ∧ shown.page.next = some (Page.encodeCursor 2) ∧
        Page.ofFetched64? offset size shown.results.length = some shown.page := by
  intro s c
  have hlog : (s.log.length : Int) ≤ maxInt64 := by decide
  have hcaller : (Text.trim "ada".toList).isEmpty = false := by decide
  have hcursor : StandsFor (some (Page.encodeCursor 1)) 1 :=
    Page.decodeCursor_encodeCursor (by decide) (by decide)
  have hresult := congrArg Course.result
    (perform_history listable_script hcaller hcursor (some 1) s)
  obtain ⟨offset, size, hevents, hpage⟩ :=
    (history_within64 hlog ({} : Script).surroundings (.ofSeconds 30) 0 "ada".toList
      (some (Page.encodeCursor 1)) (some 1)).2 _ hresult
  exact ⟨hlog, _, offset, size, hresult, hevents, by decide +kernel, hpage⟩

end Service

/-- A log that does not skip would make the sum overflow. -/
example : Page.ofFetched64? maxInt64 1 1 = none := by decide

end LotSearch
