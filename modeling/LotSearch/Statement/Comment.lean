import LotSearch.Text.Blank

/-!
# Comments at the end of a statement

A comment runs from two hyphens outside a quoted literal to the next line break.  A comment that
runs to the end of the statement would swallow whatever is appended, so it is cut off, together
with the blanks and semicolons around it.
-/

namespace LotSearch.Statement

/-- What the characters at a place of a statement belong to. -/
inductive Region where
  | code
  | literal
  | comment
deriving Repr, DecidableEq

/-- The text before the comment that runs to the end of the text, if there is one.  Quotes open
and close literals in turn; a doubled quote closes one and opens the next. -/
def beforeLastComment? : Region → Text → Option Text
  | _, [] => none
  | .code, c :: t =>
      if c = '\'' then (beforeLastComment? .literal t).map (c :: ·)
      else if c = '-' && t.head? = some '-' then
        if t.contains '\n' then (beforeLastComment? .comment t).map (c :: ·) else some []
      else (beforeLastComment? .code t).map (c :: ·)
  | .literal, c :: t =>
      (beforeLastComment? (if c = '\'' then .code else .literal) t).map (c :: ·)
  | .comment, c :: t =>
      (beforeLastComment? (if c = '\n' then .code else .comment) t).map (c :: ·)

theorem beforeLastComment?_length_lt {region : Region} {t kept : Text}
    (h : beforeLastComment? region t = some kept) : kept.length < t.length := by
  induction t generalizing region kept with
  | nil => cases region <;> simp [beforeLastComment?] at h
  | cons c t ih =>
      have step : ∀ {r : Region}, (beforeLastComment? r t).map (c :: ·) = some kept →
          kept.length < (c :: t).length := by
        intro r hr
        obtain ⟨k, hk, rfl⟩ := Option.map_eq_some_iff.1 hr
        simpa using ih hk
      cases region with
      | code =>
          simp only [beforeLastComment?] at h
          split at h
          · exact step h
          · split at h
            · split at h
              · exact step h
              · cases h
                simp
            · exact step h
      | literal => exact step h
      | comment => exact step h

/-- The text without blanks and semicolons at its end: blanks, then semicolons, then blanks. -/
def trimTerminator (t : Text) : Text :=
  Text.trimEnd (Text.dropEndWhile (· == ';') (Text.trimEnd t))

theorem trimTerminator_length_le (t : Text) : (trimTerminator t).length ≤ t.length :=
  Nat.le_trans (Text.trimEnd_length_le _)
    (Nat.le_trans (Text.dropEndWhile_length_le _ _) (Text.trimEnd_length_le _))

/-- The text without comments that run to its end. -/
def dropLastComments (t : Text) : Text :=
  match _cut : beforeLastComment? .code t with
  | none => t
  | some kept => dropLastComments (trimTerminator kept)
termination_by t.length
decreasing_by
  exact Nat.lt_of_le_of_lt (trimTerminator_length_le kept) (beforeLastComment?_length_lt ‹_›)

/-- The statement itself: the text without surrounding blanks, and without semicolons and
comments at its end. -/
def body (sql : Text) : Text := dropLastComments (trimTerminator (Text.trim sql))

end LotSearch.Statement
