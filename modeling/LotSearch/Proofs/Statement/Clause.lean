import LotSearch.Proofs.Text.Delimited
import LotSearch.Proofs.Text.Trim
import LotSearch.Proofs.Text.Number
import LotSearch.Statement.LimitClause

/-!
# How a row bound is written

A clause is the word `LIMIT`, blanks, a count or the word `ALL`, and an offset part.  Reading finds
exactly these parts.  No text has two of them: a clause that ends a text begins at one place only,
and that is where the statement is split.
-/

namespace LotSearch.Statement.LimitClause

theorem afterBlanks?_eq_some_iff {t rest : Text} :
    afterBlanks? t = some rest ↔
      ∃ gap : Text, gap ≠ [] ∧ (∀ c ∈ gap, isBlank c = true) ∧ t = gap ++ rest ∧
        ∀ c, rest.head? = some c → isBlank c = false := by
  constructor
  · intro h
    cases t with
    | nil => cases h
    | cons c t =>
        simp only [afterBlanks?] at h
        split at h
        · rename_i hc
          obtain rfl := Option.some.inj h
          refine ⟨c :: t.takeWhile isBlank, by simp, ?_, ?_, fun _ => Text.head?_trimStart⟩
          · intro d hd
            rcases List.mem_cons.1 hd with rfl | hd
            · exact hc
            · exact List.mem_takeWhile_imp hd
          · exact congrArg (c :: ·) List.takeWhile_append_dropWhile.symm
        · cases h
  · rintro ⟨gap, hne, hblank, rfl, hrest⟩
    obtain ⟨c, gap, rfl⟩ := List.exists_cons_of_ne_nil hne
    have hgap : ∀ d ∈ gap, isBlank d = true := fun d hd => hblank d (List.mem_cons_of_mem c hd)
    have htrim : Text.trimStart (gap ++ rest) = rest := Text.trimStart_append hgap hrest
    simp [afterBlanks?, hblank c List.mem_cons_self, htrim]

/-- The offset part of a clause, when it is there: blanks, the word `OFFSET`, blanks, digits. -/
structure OffsetWriting (t : Text) where
  gap : Text
  word : Text
  gap' : Text
  digits : Text
  eq_append : t = gap ++ (word ++ (gap' ++ digits))
  gap_ne_nil : gap ≠ []
  gap_blank : ∀ c ∈ gap, isBlank c = true
  word_folds : word.map foldAscii = "offset".toList
  gap'_ne_nil : gap' ≠ []
  gap'_blank : ∀ c ∈ gap', isBlank c = true
  digits_ne_nil : digits ≠ []
  digits_digit : ∀ c ∈ digits, isDigit c = true

theorem offsetWriting_of_isOffset {t : Text} (h : isOffset t = true) :
    t = [] ∨ Nonempty (OffsetWriting t) := by
  simp only [isOffset, Bool.or_eq_true, List.isEmpty_iff] at h
  rcases h with h | h
  · exact .inl h
  right
  split at h
  · cases h
  · rename_i rest hrest
    split at h
    · cases h
    · rename_i digits hdigits
      obtain ⟨u, hu, hword⟩ := Option.bind_eq_some_iff.1 hrest
      obtain ⟨gap, hgap, hblank, rfl, _⟩ := afterBlanks?_eq_some_iff.1 hu
      obtain ⟨word, rfl, hfold⟩ := Text.afterFolded?_eq_some_iff.1 hword
      obtain ⟨gap', hgap', hblank', rfl, _⟩ := afterBlanks?_eq_some_iff.1 hdigits
      simp only [Bool.and_eq_true, Bool.not_eq_true', List.isEmpty_eq_false_iff,
        List.all_eq_true] at h
      exact ⟨gap, word, gap', digits, rfl, hgap, hblank, hfold, hgap', hblank', h.1, h.2⟩

/-- What stands for a count: its digits, or the word `ALL` for none. -/
def Counts : Option Text → Text → Prop
  | some digits, t => t = digits ∧ digits ≠ [] ∧ ∀ c ∈ digits, isDigit c = true
  | none, t => t.map foldAscii = "all".toList

/-- A clause as it is written. -/
structure Writing (clause : LimitClause) (t : Text) where
  word : Text
  gap : Text
  number : Text
  eq_append : t = word ++ (gap ++ (number ++ clause.offset))
  word_folds : word.map foldAscii = "limit".toList
  gap_ne_nil : gap ≠ []
  gap_blank : ∀ c ∈ gap, isBlank c = true
  counts : Counts clause.count number
  isOffset : LimitClause.isOffset clause.offset = true

theorem writing_of_read? {t : Text} {clause : LimitClause} (h : read? t = some clause) :
    Nonempty (Writing clause t) := by
  simp only [read?, Option.bind_eq_bind, Option.bind_eq_some_iff] at h
  obtain ⟨u, hu, v, hv, h⟩ := h
  obtain ⟨word, rfl, hword⟩ := Text.afterFolded?_eq_some_iff.1 hu
  obtain ⟨gap, hgap, hblank, rfl, _⟩ := afterBlanks?_eq_some_iff.1 hv
  split at h
  · simp only [Option.bind_eq_some_iff] at h
    obtain ⟨rest, hrest, h⟩ := h
    obtain ⟨number, rfl, hall⟩ := Text.afterFolded?_eq_some_iff.1 hrest
    split at h
    · rename_i hoffset
      obtain rfl := Option.some.inj h
      exact ⟨word, gap, number, rfl, hword, hgap, hblank, hall, hoffset⟩
    · cases h
  · rename_i hdigits
    split at h
    · rename_i hoffset
      obtain rfl := Option.some.inj h
      refine ⟨word, gap, v.takeWhile isDigit, ?_, hword, hgap, hblank, ⟨rfl, ?_, ?_⟩, hoffset⟩
      · simp
      · simpa using hdigits
      · intro c hc
        exact List.mem_takeWhile_imp hc
    · cases h

/-! ## The characters of a clause -/

/-- The characters that stand in clauses: blanks, digits and letters. -/
def isClauseChar (c : Char) : Bool :=
  isBlank c || isDigit c || ('a' ≤ foldAscii c && foldAscii c ≤ 'z')

theorem isClauseChar_of_isBlank {c : Char} (h : isBlank c = true) : isClauseChar c = true := by
  simp [isClauseChar, h]

theorem isClauseChar_of_isDigit {c : Char} (h : isDigit c = true) : isClauseChar c = true := by
  simp [isClauseChar, h]

theorem isClauseChar_of_folds {u word : Text} (hfold : u.map foldAscii = word)
    (hword : (word.all fun p => 'a' ≤ p && p ≤ 'z') = true) {c : Char} (hc : c ∈ u) :
    isClauseChar c = true := by
  subst hfold
  have hletter := List.all_eq_true.1 hword (foldAscii c) (List.mem_map_of_mem hc)
  simp [isClauseChar, hletter]

theorem ne_of_isClauseChar {c : Char} (h : isClauseChar c = true) :
    c ≠ '\'' ∧ c ≠ '-' ∧ c ≠ ';' :=
  ⟨ne_of_class h (by decide), ne_of_class h (by decide), ne_of_class h (by decide)⟩

/-- Folding brings the letter `m` into no blank and no digit. -/
theorem foldAscii_ne_m {c : Char} (h : isBlank c = true ∨ isDigit c = true) :
    foldAscii c ≠ 'm' := by
  rcases h with h | h
  · rw [foldAscii_of_isBlank h]
    exact ne_of_class h (by decide)
  · rw [foldAscii_of_isDigit h]
    exact ne_of_class h (by decide)

theorem foldAscii_ne_m_of_folds {u word : Text} (hfold : u.map foldAscii = word)
    (hword : 'm' ∉ word) {c : Char} (hc : c ∈ u) : foldAscii c ≠ 'm' := by
  rintro hm
  exact hword (hfold ▸ hm ▸ List.mem_map_of_mem hc)

theorem isClauseChar_of_offset {t : Text} (h : isOffset t = true) {c : Char} (hc : c ∈ t) :
    isClauseChar c = true ∧ foldAscii c ≠ 'm' := by
  rcases offsetWriting_of_isOffset h with rfl | ⟨⟨w⟩⟩
  · simp at hc
  · rw [w.eq_append] at hc
    simp only [List.mem_append] at hc
    rcases hc with hc | hc | hc | hc
    · exact ⟨isClauseChar_of_isBlank (w.gap_blank c hc), foldAscii_ne_m (.inl (w.gap_blank c hc))⟩
    · exact ⟨isClauseChar_of_folds w.word_folds (by decide) hc,
        foldAscii_ne_m_of_folds w.word_folds (by decide) hc⟩
    · exact ⟨isClauseChar_of_isBlank (w.gap'_blank c hc),
        foldAscii_ne_m (.inl (w.gap'_blank c hc))⟩
    · exact ⟨isClauseChar_of_isDigit (w.digits_digit c hc),
        foldAscii_ne_m (.inr (w.digits_digit c hc))⟩

theorem Counts.isClauseChar {count : Option Text} {t : Text} (h : Counts count t) {c : Char}
    (hc : c ∈ t) : isClauseChar c = true ∧ foldAscii c ≠ 'm' ∧ isBlank c = false := by
  cases count with
  | some digits =>
      obtain ⟨rfl, _, hdigits⟩ := h
      exact ⟨isClauseChar_of_isDigit (hdigits c hc), foldAscii_ne_m (.inr (hdigits c hc)),
        isBlank_of_isDigit (hdigits c hc)⟩
  | none =>
      have hmem : foldAscii c ∈ "all".toList := h ▸ List.mem_map_of_mem hc
      refine ⟨isClauseChar_of_folds h (by decide) hc, foldAscii_ne_m_of_folds h (by decide) hc, ?_⟩
      have hletters : ∀ p ∈ "all".toList, isBlank p = false :=
        forall_mem_of_all (by decide)
      exact isBlank_of_foldAscii rfl (hletters _ hmem)

theorem Counts.ne_nil {count : Option Text} {t : Text} (h : Counts count t) : t ≠ [] := by
  rintro rfl
  cases count with
  | some digits => exact h.2.1 h.1.symm
  | none => simp [Counts] at h

/-- An offset part is empty or begins with a blank and ends in a digit. -/
theorem offset_ends {t : Text} (h : isOffset t = true) :
    (∀ c, t.head? = some c → isBlank c = true) ∧ ∀ c, t.getLast? = some c → isDigit c = true := by
  rcases offsetWriting_of_isOffset h with rfl | ⟨⟨w⟩⟩
  · simp
  · rw [w.eq_append]
    constructor
    · intro c hc
      obtain ⟨d, gap, hgap⟩ := List.exists_cons_of_ne_nil w.gap_ne_nil
      rw [hgap] at hc
      obtain rfl : d = c := by simpa using hc
      exact w.gap_blank d (by simp [hgap])
    · intro c hc
      have hlast : w.digits.getLast? = some c := by
        simpa [List.getLast?_append, List.getLast?_eq_some_getLast w.digits_ne_nil] using hc
      exact w.digits_digit c (List.mem_of_getLast? hlast)

namespace Writing

variable {clause : LimitClause} {t : Text}

theorem isClauseChar (w : Writing clause t) {c : Char} (hc : c ∈ t) :
    LimitClause.isClauseChar c = true := by
  rw [w.eq_append] at hc
  simp only [List.mem_append] at hc
  rcases hc with hc | hc | hc | hc
  · exact isClauseChar_of_folds w.word_folds (by decide) hc
  · exact isClauseChar_of_isBlank (w.gap_blank c hc)
  · exact (w.counts.isClauseChar hc).1
  · exact (isClauseChar_of_offset w.isOffset hc).1

/-- A clause ends in a digit or a letter. -/
theorem isBlank_getLast? (w : Writing clause t) {c : Char} (hc : t.getLast? = some c) :
    isBlank c = false := by
  obtain ⟨d, hd⟩ : ∃ d, w.number.getLast? = some d :=
    ⟨_, List.getLast?_eq_some_getLast w.counts.ne_nil⟩
  rw [w.eq_append] at hc
  cases hoffset : clause.offset.getLast? with
  | some e =>
      obtain rfl : e = c := by simpa [List.getLast?_append, hoffset] using hc
      exact isBlank_of_isDigit ((offset_ends w.isOffset).2 e hoffset)
  | none =>
      obtain rfl : d = c := by simpa [List.getLast?_append, hoffset, hd] using hc
      exact (w.counts.isClauseChar (List.mem_of_getLast? hd)).2.2

/-- A clause begins with a word character. -/
theorem boundary_head? (w : Writing clause t) (previous : Option Char) :
    Text.boundary previous t.head? = !previous.any isWord := by
  have hword := w.word_folds
  rw [w.eq_append]
  cases hw : w.word with
  | nil => simp [hw] at hword
  | cons c u =>
      have hc : foldAscii c = 'l' := by
        rw [hw] at hword
        exact (List.cons.inj hword).1
      simp [Text.boundary, isWord_of_foldAscii hc (by decide) (by decide) (by decide)]

/-! ## One place for each clause -/

theorem map_foldAscii (w : Writing clause t) :
    t.map foldAscii = "limit".toList ++ (w.gap ++ (w.number ++ clause.offset)).map foldAscii := by
  conv_lhs => rw [w.eq_append, List.map_append, w.word_folds]

theorem m_notMem (w : Writing clause t) :
    'm' ∉ (w.gap ++ (w.number ++ clause.offset)).map foldAscii := by
  intro hm
  obtain ⟨c, hc, hfold⟩ := List.mem_map.1 hm
  simp only [List.mem_append] at hc
  rcases hc with hc | hc | hc
  · exact foldAscii_ne_m (.inl (w.gap_blank c hc)) hfold
  · exact (w.counts.isClauseChar hc).2.1 hfold
  · exact (isClauseChar_of_offset w.isOffset hc).2 hfold

/-- The letter `m` tells where a clause begins: it has one, behind two other letters. -/
theorem eq_nil_of_append {clause' : LimitClause} {u : Text} (w : Writing clause t)
    (w' : Writing clause' (u ++ t)) : u = [] := by
  have hcount : (t.map foldAscii).count 'm' = 1 := by
    rw [w.map_foldAscii, List.count_append, List.count_eq_zero.2 w.m_notMem]
    rfl
  have hcount' : ((u ++ t).map foldAscii).count 'm' = 1 := by
    rw [w'.map_foldAscii, List.count_append, List.count_eq_zero.2 w'.m_notMem]
    rfl
  have hm : 'm' ∉ u.map foldAscii := by
    rw [List.map_append, List.count_append, hcount] at hcount'
    exact List.count_eq_zero.1 (by omega)
  have hindex : (t.map foldAscii).idxOf 'm' = 2 := by
    rw [w.map_foldAscii]
    rfl
  have hindex' : ((u ++ t).map foldAscii).idxOf 'm' = 2 := by
    rw [w'.map_foldAscii]
    rfl
  rw [List.map_append, List.idxOf_append, if_neg hm, hindex, List.length_map] at hindex'
  exact List.eq_nil_of_length_eq_zero (by omega)

/-! ## Reading a clause back -/

theorem head?_number (w : Writing clause t) {c : Char}
    (hc : (w.number ++ clause.offset).head? = some c) : isBlank c = false := by
  obtain ⟨d, number, hnumber⟩ := List.exists_cons_of_ne_nil w.counts.ne_nil
  rw [hnumber] at hc
  obtain rfl : d = c := by simpa using hc
  exact (w.counts.isClauseChar (by simp [hnumber])).2.2

theorem head?_offset (w : Writing clause t) : clause.offset.head?.any isDigit = false := by
  cases hoffset : clause.offset with
  | nil => rfl
  | cons c offset =>
      have hc : isBlank c = true := (offset_ends w.isOffset).1 c (by simp [hoffset])
      simp [isDigit_of_isBlank hc]

theorem read? (w : Writing clause t) : LimitClause.read? t = some clause := by
  have hword : Text.afterFolded? "limit".toList t = some (w.gap ++ (w.number ++ clause.offset)) :=
    Text.afterFolded?_eq_some_iff.2 ⟨w.word, w.eq_append, w.word_folds⟩
  have hgap : afterBlanks? (w.gap ++ (w.number ++ clause.offset)) =
      some (w.number ++ clause.offset) :=
    afterBlanks?_eq_some_iff.2 ⟨w.gap, w.gap_ne_nil, w.gap_blank, rfl, fun _ => w.head?_number⟩
  have hcounts := w.counts
  obtain ⟨count, offset⟩ := clause
  cases count with
  | some digits =>
      obtain ⟨hnumber, hne, hdigits⟩ := hcounts
      have htake := takeWhile_append_of_class hdigits w.head?_offset
      have hdrop := dropWhile_append_of_class hdigits w.head?_offset
      have hempty : digits.isEmpty = false := by simpa using hne
      rw [hnumber] at hword hgap
      simp only [LimitClause.read?, Option.bind_eq_bind, hword, Option.bind_some, hgap, htake,
        hdrop, hempty, Bool.false_eq_true, if_false, if_pos w.isOffset]
  | none =>
      have hall : Text.afterFolded? "all".toList (w.number ++ offset) = some offset :=
        Text.afterFolded?_eq_some_iff.2 ⟨w.number, rfl, hcounts⟩
      have htake : (w.number ++ offset).takeWhile isDigit = [] := by
        obtain ⟨c, number, hnumber⟩ := List.exists_cons_of_ne_nil w.counts.ne_nil
        have hfold : foldAscii c = 'a' := by
          have hmap : (c :: number).map foldAscii = "all".toList := hnumber ▸ hcounts
          exact (List.cons.inj hmap).1
        simp [hnumber, isDigit_of_foldAscii hfold (by decide)]
      simp only [LimitClause.read?, Option.bind_eq_bind, hword, Option.bind_some, hgap, htake,
        List.isEmpty_nil, if_true, hall, if_pos w.isOffset]

end Writing

/-- The clause that bounds a statement to a number of rows, in front of an offset part. -/
def bounded (n : Nat) {offset : Text} (h : isOffset offset = true) :
    Writing ⟨some (Text.ofNat n), offset⟩ ("LIMIT ".toList ++ Text.ofNat n ++ offset) where
  word := "LIMIT".toList
  gap := [' ']
  number := Text.ofNat n
  eq_append := by simp
  word_folds := by decide
  gap_ne_nil := by simp
  gap_blank := forall_mem_of_all (by decide)
  counts := ⟨rfl, Text.ofNat_ne_nil n, fun _ hc => Text.isDigit_of_mem_ofNat hc⟩
  isOffset := h

end LotSearch.Statement.LimitClause

namespace LotSearch.Statement

open LimitClause

/-! ## Splitting a statement at its clause -/

theorem of_splitLimitAfter? {previous : Option Char} {t before : Text} {clause : LimitClause}
    (h : splitLimitAfter? previous t = some (before, clause)) :
    ∃ tail, t = before ++ tail ∧ read? tail = some clause ∧
      Text.boundary (before.getLast?.or previous) tail.head? = true := by
  induction t generalizing previous before with
  | nil => simp [splitLimitAfter?] at h
  | cons c t ih =>
      simp only [splitLimitAfter?] at h
      split at h
      · rename_i found hfound
        obtain ⟨rfl, rfl⟩ : before = [] ∧ found = clause := by simpa [eq_comm] using h
        split_ifs at hfound with hedge
        exact ⟨c :: t, rfl, hfound, by simpa using hedge⟩
      · obtain ⟨⟨b, found⟩, hsplit, heq⟩ := Option.map_eq_some_iff.1 h
        obtain ⟨rfl, rfl⟩ : c :: b = before ∧ found = clause := by simpa using heq
        obtain ⟨tail, rfl, hread, hedge⟩ := ih hsplit
        refine ⟨tail, rfl, hread, ?_⟩
        rw [List.getLast?_cons]
        cases hb : b.getLast? <;> simpa [hb] using hedge

/-- A statement is split in front of a clause that ends it, since no clause begins earlier. -/
theorem splitLimitAfter?_append {previous : Option Char} {s t : Text} {clause : LimitClause}
    (w : Writing clause t) (hedge : Text.boundary (s.getLast?.or previous) t.head? = true) :
    splitLimitAfter? previous (s ++ t) = some (s, clause) := by
  induction s generalizing previous with
  | nil =>
      cases t with
      | nil =>
          have hread := w.read?
          simp [LimitClause.read?, Text.afterFolded?] at hread
      | cons c t =>
          have hb : Text.boundary previous (some c) = true := by simpa using hedge
          simp [splitLimitAfter?, hb, w.read?]
  | cons c s ih =>
      have hnone : LimitClause.read? (c :: (s ++ t)) = none := by
        by_contra hsome
        obtain ⟨found, hfound⟩ := Option.ne_none_iff_exists'.1 hsome
        obtain ⟨w'⟩ := writing_of_read? hfound
        exact List.cons_ne_nil c s (w.eq_nil_of_append (u := c :: s) w')
      have htail : splitLimitAfter? (some c) (s ++ t) = some (s, clause) := by
        apply ih
        rw [List.getLast?_cons] at hedge
        cases hs : s.getLast? <;> simpa [hs] using hedge
      simp [splitLimitAfter?, hnone, htail]

theorem of_splitLimit? {t before : Text} {clause : LimitClause}
    (h : splitLimit? t = some (before, clause)) :
    ∃ tail, t = before ++ tail ∧ Nonempty (Writing clause tail) ∧
      before.getLast?.any isWord = false := by
  obtain ⟨tail, rfl, hread, hedge⟩ := of_splitLimitAfter? h
  obtain ⟨w⟩ := writing_of_read? hread
  refine ⟨tail, rfl, ⟨w⟩, ?_⟩
  rw [w.boundary_head?] at hedge
  simpa using hedge

theorem splitLimit?_append {s t : Text} {clause : LimitClause} (w : Writing clause t)
    (hedge : s.getLast?.any isWord = false) : splitLimit? (s ++ t) = some (s, clause) := by
  apply splitLimitAfter?_append w
  rw [w.boundary_head?]
  simpa using hedge

end LotSearch.Statement
