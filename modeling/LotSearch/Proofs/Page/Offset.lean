import LotSearch.Proofs.Json.Slots
import LotSearch.Proofs.Page.Cursor

/-!
# The offsets of cursors

A cursor is made of characters that need no escape in a URL, and it stands for the offset that it
was made from, or for zero if that was negative.  A text that comes back from a caller is refused
or stands for some offset of the same range, whatever the caller made of it.
-/

namespace LotSearch

namespace Page

variable {cursor : Text} {octets : Octets} {n offset : Int}

/-! ## Offsets that are read -/

theorem bounds_of_readPayload (h : readPayload octets = some n) :
    minInt64 ≤ n ∧ n ≤ maxInt64 := by
  rw [readPayload] at h
  split at h
  · next m rest hread =>
    split_ifs at h
    obtain rfl := Option.some.inj h
    obtain ⟨k, heq, hbounds⟩ := Json.haveTypes_of_readRecordWith hread 0 _ _ rfl rfl
    cases heq
    exact hbounds
  · cases h

/-- A cursor is refused as a request, or stands for an offset. -/
theorem decodeCursor_cases (cursor : Text) :
    (∃ reason, decodeCursor cursor = .error (.invalidRequest reason)) ∨
      ∃ offset, decodeCursor cursor = .ok offset ∧ 0 ≤ offset ∧ offset ≤ maxInt64 := by
  rw [decodeCursor]
  split
  · exact .inl ⟨_, rfl⟩
  · split
    · exact .inl ⟨_, rfl⟩
    · next n hread =>
      have hzero : (0 : Int) ≤ maxInt64 := by decide
      exact .inr ⟨_, rfl, le_max_right n 0, max_le (bounds_of_readPayload hread).2 hzero⟩

theorem bounds_of_decodeCursor (h : decodeCursor cursor = .ok offset) :
    0 ≤ offset ∧ offset ≤ maxInt64 := by
  rcases decodeCursor_cases cursor with ⟨reason, hrefused⟩ | ⟨m, hm, hbounds⟩
  · rw [hrefused] at h
    cases h
  · rw [hm] at h
    obtain rfl := Except.ok.inj h
    exact hbounds

/-! ## Offsets that are written -/

theorem encodeCursor_max (n : Int) : encodeCursor (max n 0) = encodeCursor n := by
  rw [encodeCursor, encodeCursor, max_assoc, max_self]

theorem decodeCursor_encodeCursor_max (h : n ≤ maxInt64) :
    decodeCursor (encodeCursor n) = .ok (max n 0) := by
  rw [← encodeCursor_max]
  apply decodeCursor_encodeCursor
  · exact le_max_right n 0
  · exact max_le h (by decide)

theorem isUrlSafe_of_mem_encodeCursor {c : Char} (h : c ∈ encodeCursor n) :
    Base64Url.isUrlSafe c = true :=
  Base64Url.isUrlSafe_of_mem_encode h

theorem injOn_encodeCursor : Set.InjOn encodeCursor (Set.Icc 0 maxInt64) := by
  intro m hm n hn h
  have hread := decodeCursor_encodeCursor hm.1 hm.2
  rw [h, decodeCursor_encodeCursor hn.1 hn.2] at hread
  exact (Except.ok.inj hread).symm

/-- The cursors of offsets read back, need no escapes and are different for different offsets, and
no other text stands for anything but an offset. -/
theorem cursors_of_offsets :
    (∀ n ≤ maxInt64, decodeCursor (encodeCursor n) = .ok (max n 0) ∧
      ∀ c ∈ encodeCursor n, Base64Url.isUrlSafe c = true) ∧
    Set.InjOn encodeCursor (Set.Icc 0 maxInt64) ∧
    ∀ cursor, (∃ reason, decodeCursor cursor = .error (.invalidRequest reason)) ∨
      ∃ offset, decodeCursor cursor = .ok offset ∧ 0 ≤ offset ∧ offset ≤ maxInt64 := by
  refine ⟨fun n hle => ⟨decodeCursor_encodeCursor_max hle, ?_⟩, injOn_encodeCursor,
    decodeCursor_cases⟩
  intro c hc
  exact isUrlSafe_of_mem_encodeCursor hc

theorem cursors_of_offsets_ends :
    decodeCursor (encodeCursor minInt64) = .ok 0 ∧
      decodeCursor (encodeCursor maxInt64) = .ok maxInt64 ∧
      encodeCursor 99 ≠ encodeCursor 100 := by
  obtain ⟨hread, hinjective, -⟩ := cursors_of_offsets
  refine ⟨(hread minInt64 (by decide)).1, (hread maxInt64 (le_refl _)).1, fun h => ?_⟩
  have heq := hinjective (Set.mem_Icc.2 (by decide)) (Set.mem_Icc.2 (by decide)) h
  omega

/-- The payload may be a list, and one beyond 64 bits is refused. -/
example : decodeCursor (Base64Url.encode (Utf8.encode "[-7]".toList)) = .ok 0 ∧
    decodeCursor (Base64Url.encode (Utf8.encode "[9223372036854775808]".toList)) =
      .error (.invalidRequest "invalid cursor payload".toList) := by
  decide +kernel

end Page

end LotSearch
