import LotSearch.Proofs.Statement.Terminator

/-!
# Accepted statements

The gate decides on what is left of a text when its end is cut off, and no cut reaches into the
first word: it begins in code, holds no mark of a comment and ends in a letter.  So the text as it
came decides.  A clause that is written behind a statement is the one that the gate reads, whatever
the statement itself ends in, and only its count changes.
-/

namespace LotSearch.Statement

open LimitClause

/-! ## What a cut leaves alone -/

theorem beforeLastComment?_append_of_plain {w : Text} (h : ∀ c ∈ w, c ≠ '\'' ∧ c ≠ '-')
    (t : Text) :
    beforeLastComment? .code (w ++ t) = (beforeLastComment? .code t).map (w ++ ·) := by
  induction w with
  | nil => simp
  | cons c w ih =>
      obtain ⟨⟨hquote, hhyphen⟩, hw⟩ := List.forall_mem_cons.1 h
      have hstep : beforeLastComment? .code (c :: (w ++ t)) =
          (beforeLastComment? .code (w ++ t)).map (c :: ·) := by
        simp [beforeLastComment?, hquote, hhyphen]
      rw [List.cons_append, hstep, ih hw, Option.map_map]
      rfl

/-- A beginning without quotes and hyphens stays when it ends in neither a blank nor a semicolon:
every comment begins behind it, and trimming stops at its last character. -/
theorem isPrefix_dropLastComments {w : Text} (hplain : ∀ c ∈ w, c ≠ '\'' ∧ c ≠ '-')
    (hfirm : Firm w) (t : Text) : w <+: dropLastComments (w ++ t) := by
  induction hn : t.length using Nat.strongRecOn generalizing t with
  | ind n ih =>
      subst hn
      have hcut := beforeLastComment?_append_of_plain hplain t
      cases hkept : beforeLastComment? .code t with
      | none =>
          rw [hkept, Option.map_none] at hcut
          have hend := (beforeLastComment?_eq_none_iff .code (by simp)).1 hcut
          rw [dropLastComments_eq_self hend]
          exact List.prefix_append w t
      | some kept =>
          rw [hkept, Option.map_some] at hcut
          rw [dropLastComments_of_cut hcut, hfirm.trimTerminator_append]
          refine ih _ ?_ _ rfl
          exact (trimTerminator_length_le kept).trans_lt (beforeLastComment?_length_lt hkept)

/-! ## The first word -/

/-- A text begins with the word exactly when its first six characters spell it. -/
theorem startsWithSelect_iff {sql : Text} :
    startsWithSelect sql = true ↔
      ∃ word rest, Text.trimStart sql = word ++ rest ∧ Text.asciiLower word = "select".toList := by
  rw [startsWithSelect, beq_iff_eq]
  constructor
  · intro h
    exact ⟨_, _, (List.take_append_drop 6 _).symm, h⟩
  · rintro ⟨word, rest, hsplit, hword⟩
    have hlength : word.length = 6 := by
      have hletters := congrArg List.length hword
      rwa [Text.asciiLower, List.length_map] at hletters
    rw [hsplit, List.take_left' hlength, hword]

theorem startsWithSelect_of_isPrefix {s t : Text} (h : Text.trimStart s <+: Text.trimStart t)
    (hs : startsWithSelect s = true) : startsWithSelect t = true := by
  obtain ⟨rest, hrest⟩ := h
  obtain ⟨word, middle, hsplit, hword⟩ := startsWithSelect_iff.1 hs
  exact startsWithSelect_iff.2 ⟨word, middle ++ rest, by rw [← hrest, hsplit, List.append_assoc],
    hword⟩

theorem plain_of_select {word : Text} (h : Text.asciiLower word = "select".toList) :
    ∀ c ∈ word, isBlank c = false ∧ c ≠ ';' ∧ c ≠ '\'' ∧ c ≠ '-' := by
  intro c hc
  have hmem : c.toLower ∈ "select".toList := h ▸ List.mem_map_of_mem hc
  have hletters : ∀ p ∈ "select".toList, p.toNat < 0x80 ∧ isBlank p = false :=
    forall_mem_of_all (by decide)
  obtain ⟨hascii, hblank⟩ := hletters _ hmem
  refine ⟨isBlank_of_foldAscii (foldAscii_of_toLower rfl hascii) hblank, ?_, ?_, ?_⟩ <;>
    · rintro rfl
      exact absurd hmem (by decide)

theorem trimStart_body (sql : Text) : Text.trimStart (body sql) = body sql :=
  Text.trimStart_eq_self fun _ => head?_body

theorem body_trimStart (sql : Text) : body (Text.trimStart sql) = body sql := by
  rw [body, Text.trim, Text.trimStart_eq_self fun _ => Text.head?_trimStart, ← Text.trim, ← body]

theorem startsWithSelect_body (sql : Text) :
    startsWithSelect (body sql) = startsWithSelect sql := by
  rw [Bool.eq_iff_iff]
  constructor
  · apply startsWithSelect_of_isPrefix
    rw [trimStart_body]
    exact (body_isPrefix sql).trans (Text.trimEnd_isPrefix _)
  · intro hselect
    obtain ⟨word, rest, hsplit, hword⟩ := startsWithSelect_iff.1 hselect
    have hplain := plain_of_select hword
    have hne : word ≠ [] := by
      rintro rfl
      cases hword
    have hfirm : Firm word := fun c hc =>
      have hc := hplain c (List.mem_of_getLast? hc)
      ⟨hc.1, hc.2.1⟩
    have hbody : body sql = dropLastComments (word ++ trimTerminator rest) := by
      rw [← body_trimStart, hsplit, body_append hne, hfirm.trimTerminator_append]
      exact fun c hc => (hplain c (List.mem_of_mem_head? hc)).1
    obtain ⟨kept, hkept⟩ := isPrefix_dropLastComments (fun c hc => (hplain c hc).2.2) hfirm
      (trimTerminator rest)
    exact startsWithSelect_iff.2 ⟨word, kept, by rw [trimStart_body, hbody, hkept], hword⟩

/-- A text passes the gate exactly when it begins with the word, and leaves it beginning with the
word.  A text that is refused is reported without the blanks around it. -/
theorem isOk_gate (sql : Text) (maxRows : Int) :
    (gate sql maxRows).isOk = startsWithSelect sql ∧
      match gate sql maxRows with
      | .ok out => startsWithSelect out = true
      | .error fault => fault = .notSelect (Text.trim sql) := by
  cases hgate : gate sql maxRows with
  | ok out =>
      have hselect := (gate_eq_ok_iff.1 hgate).1
      rw [startsWithSelect_body] at hselect
      exact ⟨hselect.symm, (head?_gate hgate).2⟩
  | error fault =>
      rw [gate, startsWithSelect_body] at hgate
      split_ifs at hgate with hselect
      cases hgate
      exact ⟨(eq_false_of_ne_true hselect).symm, rfl⟩

/-! ## A clause behind a statement -/

namespace LimitClause

theorem OffsetWriting.isOffset {t : Text} (w : OffsetWriting t) :
    LimitClause.isOffset t = true := by
  have hword : ∀ c, (w.word ++ (w.gap' ++ w.digits)).head? = some c → isBlank c = false := by
    intro c hc
    cases hw : w.word with
    | nil =>
        have hfolds := w.word_folds
        rw [hw] at hfolds
        cases hfolds
    | cons d word =>
        have hfolds : foldAscii d = 'o' := by
          have hfolds := w.word_folds
          rw [hw] at hfolds
          exact (List.cons.inj hfolds).1
        obtain rfl : d = c := by simpa [hw] using hc
        exact isBlank_of_foldAscii hfolds (by decide)
  have hdigits : ∀ c, w.digits.head? = some c → isBlank c = false := fun c hc =>
    isBlank_of_isDigit (w.digits_digit c (List.mem_of_mem_head? hc))
  have hgap : afterBlanks? t = some (w.word ++ (w.gap' ++ w.digits)) :=
    afterBlanks?_eq_some_iff.2 ⟨w.gap, w.gap_ne_nil, w.gap_blank, w.eq_append, hword⟩
  have hoffset : Text.afterFolded? "offset".toList (w.word ++ (w.gap' ++ w.digits)) =
      some (w.gap' ++ w.digits) :=
    Text.afterFolded?_eq_some_iff.2 ⟨w.word, rfl, w.word_folds⟩
  have hgap' : afterBlanks? (w.gap' ++ w.digits) = some w.digits :=
    afterBlanks?_eq_some_iff.2 ⟨w.gap', w.gap'_ne_nil, w.gap'_blank, rfl, hdigits⟩
  have hall : w.digits.all isDigit = true := List.all_eq_true.2 w.digits_digit
  simp only [LimitClause.isOffset, hgap, Option.bind_some, hoffset, hgap', hall]
  simp [w.digits_ne_nil]

/-- The offset part for a count of rows that are left out, and nothing without one. -/
def offsetPart : Option Text → Text
  | none => []
  | some count => " OFFSET ".toList ++ count

theorem isOffset_offsetPart {count? : Option Text}
    (h : ∀ count ∈ count?, count ≠ [] ∧ ∀ c ∈ count, isDigit c = true) :
    isOffset (offsetPart count?) = true := by
  cases count? with
  | none => rfl
  | some count =>
      obtain ⟨hne, hdigits⟩ := h count rfl
      have w : OffsetWriting (" OFFSET ".toList ++ count) :=
        { gap := [' ']
          word := "OFFSET".toList
          gap' := [' ']
          digits := count
          eq_append := rfl
          gap_ne_nil := by simp
          gap_blank := forall_mem_of_all (by decide)
          word_folds := by decide
          gap'_ne_nil := by simp
          gap'_blank := forall_mem_of_all (by decide)
          digits_ne_nil := hne
          digits_digit := hdigits }
      exact w.isOffset

end LimitClause

/-- A clause that begins outside comments ends the body of a statement. -/
theorem body_append_writing {before tail : Text} {clause : LimitClause} (w : Writing clause tail)
    (hne : before ≠ []) (hhead : ∀ c, before.head? = some c → isBlank c = false)
    (hend : regionAfter .code before ≠ .comment) : body (before ++ tail) = before ++ tail := by
  have htail : tail ≠ [] := by
    rw [w.eq_append]
    exact List.append_ne_nil_of_right_ne_nil _ (List.append_ne_nil_of_left_ne_nil w.gap_ne_nil _)
  apply body_eq_self
  · rwa [List.head?_append_of_ne_nil _ hne]
  · rw [List.getLast?_append_of_ne_nil _ htail]
    intro c hc
    have hmark := ne_of_isClauseChar (w.isClauseChar (List.mem_of_getLast? hc))
    exact ⟨w.isBlank_getLast? hc, hmark.2.2⟩
  · rw [Ne, regionAfter_append_clause w]
    exact fun h => hend h.1

/-- The comments and clauses of a statement do not matter to a clause behind it, as long as the
statement does not end in a comment. -/
theorem gate_append_clause {s offset : Text} (hselect : startsWithSelect s = true)
    (hhead : ∀ c, s.head? = some c → isBlank c = false) (hend : regionAfter .code s ≠ .comment)
    (hoffset : isOffset offset = true) (n : Nat) (maxRows : Int) :
    gate (s ++ (" LIMIT ".toList ++ Text.ofNat n ++ offset)) maxRows =
      .ok (s ++ (" LIMIT ".toList ++ Text.ofInt (min n (clampRows maxRows)) ++ offset)) := by
  have hspace : ∀ t : Text, s ++ (" LIMIT ".toList ++ t ++ offset) =
      (s ++ [' ']) ++ ("LIMIT ".toList ++ t ++ offset) := by
    intro t
    simp
  have hne : s ≠ [] := by
    rintro rfl
    cases hselect
  have hbody : body (s ++ (" LIMIT ".toList ++ Text.ofNat n ++ offset)) =
      s ++ (" LIMIT ".toList ++ Text.ofNat n ++ offset) := by
    have hcode : regionAfter .code (s ++ [' ']) ≠ .comment := by
      rw [regionAfter_append (by simp), regionAfter_of_ne_comment (by simp) hend]
      exact hend
    rw [hspace]
    refine body_append_writing (bounded n hoffset) (by simp) ?_ hcode
    rwa [List.head?_append_of_ne_nil _ hne]
  have hword : startsWithSelect (s ++ (" LIMIT ".toList ++ Text.ofNat n ++ offset)) = true := by
    refine startsWithSelect_of_isPrefix ?_ hselect
    rw [Text.trimStart_eq_self hhead, Text.trimStart_eq_self]
    · exact List.prefix_append _ _
    · rwa [List.head?_append_of_ne_nil _ hne]
  have hblank : isWord ' ' = false := by decide
  have hedge : (s ++ [' ']).getLast?.any isWord = false := by simp [hblank]
  rw [gate_eq_ok_iff, hbody, hspace, hspace]
  exact ⟨hspace _ ▸ hword, bound_clause hedge hoffset n (clampRows_le maxRows)⟩

/-- A count of any size behind a statement is lowered to the bound, and the statement and the offset
are kept, whatever clauses the statement holds. -/
theorem gate_limit {s : Text} (hselect : startsWithSelect s = true)
    (hhead : ∀ c, s.head? = some c → isBlank c = false) (hend : regionAfter .code s ≠ .comment)
    (n : Nat) {count? : Option Text}
    (hcount : ∀ count ∈ count?, count ≠ [] ∧ ∀ c ∈ count, isDigit c = true) (maxRows : Int) :
    gate (s ++ (" LIMIT ".toList ++ Text.ofNat n ++ offsetPart count?)) maxRows =
      .ok (s ++ (" LIMIT ".toList ++ Text.ofInt (min n (clampRows maxRows)) ++
        offsetPart count?)) :=
  gate_append_clause hselect hhead hend (isOffset_offsetPart hcount) n maxRows

/-- The statement ends in a clause of its own, behind a comment, and the count has more digits than
64 bits hold. -/
theorem gate_limit_twice :
    gate ("SELECT bbl -- limit 3\nFROM lots LIMIT 7 OFFSET".toList ++
        (" LIMIT ".toList ++ Text.ofNat 99999999999999999999 ++ offsetPart (some "20".toList)))
        50 =
      .ok "SELECT bbl -- limit 3\nFROM lots LIMIT 7 OFFSET LIMIT 50 OFFSET 20".toList := by
  have hhead : ∀ c, "SELECT bbl -- limit 3\nFROM lots LIMIT 7 OFFSET".toList.head? = some c →
      isBlank c = false := by
    intro c hc
    obtain rfl : 'S' = c := by simpa using hc
    decide
  have hcount : ∀ count ∈ some "20".toList, count ≠ [] ∧ ∀ c ∈ count, isDigit c = true := by
    rintro _ ⟨⟩
    exact ⟨by simp, forall_mem_of_all (by decide)⟩
  have hselect : startsWithSelect "SELECT bbl -- limit 3\nFROM lots LIMIT 7 OFFSET".toList = true :=
    Text.of_literal (p := (startsWithSelect · = true)) (by decide)
  have hend :
      regionAfter .code "SELECT bbl -- limit 3\nFROM lots LIMIT 7 OFFSET".toList ≠ .comment :=
    Text.of_literal (p := (regionAfter .code · ≠ .comment)) (by decide)
  have hbound : " LIMIT ".toList ++ Text.ofInt (min (99999999999999999999 : Nat) (clampRows 50)) ++
      offsetPart (some "20".toList) = " LIMIT 50 OFFSET 20".toList := by decide
  have hgate := gate_limit hselect hhead hend 99999999999999999999 hcount 50
  rw [hbound, Text.append_literal rfl] at hgate
  exact hgate

end LotSearch.Statement
