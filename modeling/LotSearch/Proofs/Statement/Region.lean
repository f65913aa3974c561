import LotSearch.Proofs.Text.Trim
import LotSearch.Statement.Comment

/-!
# Regions of a statement

Every place of a statement lies in code, in a quoted literal or in a comment.  A comment runs to
the end of a text exactly when the text ends in a comment; cutting such comments off leaves a
beginning of the text that ends elsewhere, and leaves any other text as it is.
-/

namespace LotSearch.Statement

/-- The region in which a text ends, given the region in which it begins. -/
def regionAfter : Region → Text → Region
  | region, [] => region
  | .code, c :: t =>
      if c = '\'' then regionAfter .literal t
      else if c = '-' && t.head? = some '-' then regionAfter .comment t
      else regionAfter .code t
  | .literal, c :: t => regionAfter (if c = '\'' then .code else .literal) t
  | .comment, c :: t => regionAfter (if c = '\n' then .code else .comment) t

@[simp] theorem regionAfter_nil (region : Region) : regionAfter region [] = region := by
  cases region <;> rfl

/-- A text is scanned piece by piece, unless the cut separates the two hyphens of a comment. -/
theorem regionAfter_append {s t : Text} (h : s.getLast? = some '-' → t.head? ≠ some '-')
    (region : Region) : regionAfter region (s ++ t) = regionAfter (regionAfter region s) t := by
  induction s generalizing region with
  | nil => simp
  | cons c s ih =>
      have htail : s.getLast? = some '-' → t.head? ≠ some '-' := by
        intro hs
        apply h
        cases s with
        | nil => simp at hs
        | cons d s => simpa [List.getLast?_cons_cons] using hs
      cases region with
      | code =>
          have hdash : (c = '-' && (s ++ t).head? = some '-') = (c = '-' && s.head? = some '-') := by
            cases s with
            | nil =>
                by_cases hc : c = '-'
                · have ht : t.head? ≠ some '-' := h (by simp [hc])
                  simp [ht]
                · simp [hc]
            | cons d s => rfl
          simp only [List.cons_append, regionAfter, hdash]
          split_ifs <;> exact ih htail _
      | literal => exact ih htail _
      | comment => exact ih htail _

/-- The region behind one more character; `hyphen` tells whether a hyphen stands before it. -/
def Region.next (hyphen : Bool) (c : Char) : Region → Region
  | code => if c = '\'' then literal else if c = '-' && hyphen then comment else code
  | literal => if c = '\'' then code else literal
  | comment => if c = '\n' then code else comment

theorem regionAfter_concat (region : Region) (t : Text) (c : Char) :
    regionAfter region (t ++ [c]) =
      (regionAfter region t).next (t.getLast? == some '-') c := by
  induction t generalizing region with
  | nil => cases region <;> simp [regionAfter, Region.next]
  | cons d t ih =>
      by_cases hnil : t = []
      · subst hnil
        by_cases hquote : d = '\''
        · cases region <;> simp [hquote, regionAfter, Region.next]
        · by_cases hhyphen : d = '-'
          · cases region <;> by_cases hc : c = '-' <;>
              simp [hhyphen, hc, regionAfter, Region.next]
          · cases region with
            | code => simp [hquote, hhyphen, regionAfter, Region.next]
            | literal => simp [hquote, regionAfter, Region.next]
            | comment => by_cases hbreak : d = '\n' <;> simp [hbreak, regionAfter, Region.next]
      · have hhead : (t ++ [c]).head? = t.head? := List.head?_append_of_ne_nil _ hnil
        have hlast : (d :: t).getLast? = t.getLast? := by
          obtain ⟨e, t, rfl⟩ := List.exists_cons_of_ne_nil hnil
          exact List.getLast?_cons_cons
        rw [hlast]
        cases region with
        | code =>
            simp only [List.cons_append, regionAfter, hhead]
            split_ifs <;> exact ih _
        | literal => exact ih _
        | comment => exact ih _

/-- Characters other than quotes and hyphens leave code and literals as they are. -/
theorem regionAfter_of_ne_comment {t : Text} (h : ∀ c ∈ t, c ≠ '\'' ∧ c ≠ '-') {region : Region}
    (hregion : region ≠ .comment) : regionAfter region t = region := by
  induction t with
  | nil => simp
  | cons c t ih =>
      have hc := h c List.mem_cons_self
      have ht := ih fun d hd => h d (List.mem_cons_of_mem c hd)
      cases region with
      | code => simpa [regionAfter, hc] using ht
      | literal => simpa [regionAfter, hc] using ht
      | comment => exact absurd rfl hregion

/-- A comment goes on to the next line break. -/
theorem regionAfter_comment {t : Text} (h : ∀ c ∈ t, c ≠ '\'' ∧ c ≠ '-') :
    regionAfter .comment t = if '\n' ∈ t then .code else .comment := by
  induction t with
  | nil => rfl
  | cons c t ih =>
      have ht : ∀ d ∈ t, d ≠ '\'' ∧ d ≠ '-' := fun d hd => h d (List.mem_cons_of_mem c hd)
      by_cases hc : c = '\n'
      · simp [regionAfter, hc, regionAfter_of_ne_comment ht]
      · simp [regionAfter, hc, ih ht, Ne.symm hc]

theorem regionAfter_comment_of_notMem {t : Text} (h : '\n' ∉ t) :
    regionAfter .comment t = .comment := by
  induction t with
  | nil => rfl
  | cons c t ih =>
      simp only [List.mem_cons, not_or] at h
      simpa [regionAfter, Ne.symm h.1] using ih h.2

/-! ## The comment that runs to the end -/

theorem beforeLastComment?_isPrefix {region : Region} {t kept : Text}
    (h : beforeLastComment? region t = some kept) : kept <+: t := by
  induction t generalizing region kept with
  | nil => cases region <;> simp [beforeLastComment?] at h
  | cons c t ih =>
      have step : ∀ {r : Region}, (beforeLastComment? r t).map (c :: ·) = some kept →
          kept <+: c :: t := by
        intro r hr
        obtain ⟨k, hk, rfl⟩ := Option.map_eq_some_iff.1 hr
        exact (List.prefix_cons_inj c).2 (ih hk)
      cases region with
      | code =>
          simp only [beforeLastComment?] at h
          split_ifs at h
          · exact step h
          · exact step h
          · cases h
            exact List.nil_prefix
          · exact step h
      | literal => exact step h
      | comment => exact step h

/-- A cut takes away at least the two hyphens of the comment. -/
theorem add_two_le_length_of_cut {region : Region} {t kept : Text}
    (h : beforeLastComment? region t = some kept) : kept.length + 2 ≤ t.length := by
  induction t generalizing region kept with
  | nil => cases region <;> simp [beforeLastComment?] at h
  | cons c t ih =>
      have step : ∀ {r : Region}, (beforeLastComment? r t).map (c :: ·) = some kept →
          kept.length + 2 ≤ (c :: t).length := by
        intro r hr
        obtain ⟨k, hk, rfl⟩ := Option.map_eq_some_iff.1 hr
        have hlength := ih hk
        simp only [List.length_cons]
        omega
      cases region with
      | code =>
          simp only [beforeLastComment?] at h
          split_ifs at h with hquote hdash
          · exact step h
          · exact step h
          · cases h
            cases t with
            | nil => simp at hdash
            | cons d t => simp
          · exact step h
      | literal => exact step h
      | comment => exact step h

/-- A comment that is entered with a line break ahead ends there, so it is the last region that
tells whether some comment runs to the end. -/
theorem beforeLastComment?_eq_none_iff (region : Region) {t : Text}
    (h : region = .comment → '\n' ∈ t) :
    beforeLastComment? region t = none ↔ regionAfter region t ≠ .comment := by
  induction t generalizing region with
  | nil =>
      cases region with
      | code => simp [beforeLastComment?]
      | literal => simp [beforeLastComment?]
      | comment => simp at h
  | cons c t ih =>
      cases region with
      | code =>
          simp only [beforeLastComment?, regionAfter]
          split_ifs with hquote hdash hbreak
          · simpa using ih .literal (by simp)
          · simpa using ih .comment fun _ => by simpa using hbreak
          · simp [regionAfter_comment_of_notMem (t := t) (by simpa using hbreak)]
          · simpa using ih .code (by simp)
      | literal =>
          simp only [beforeLastComment?, regionAfter, Option.map_eq_none_iff]
          exact ih _ (by split_ifs <;> simp)
      | comment =>
          simp only [beforeLastComment?, regionAfter, Option.map_eq_none_iff]
          by_cases hc : c = '\n'
          · simpa [hc] using ih .code (by simp)
          · have ht : '\n' ∈ t := by simpa [Ne.symm hc] using h rfl
            simpa [hc] using ih .comment fun _ => ht

/-- What follows a text that ends in a comment changes nothing before that comment, as long as it
holds no line break. -/
theorem beforeLastComment?_append {region : Region} {s t : Text} (hbreak : '\n' ∉ t)
    (hend : regionAfter region s = .comment) (h : region = .comment → '\n' ∈ s) :
    beforeLastComment? region (s ++ t) = beforeLastComment? region s := by
  induction s generalizing region with
  | nil =>
      cases region with
      | code => simp at hend
      | literal => simp at hend
      | comment => simp at h
  | cons c s ih =>
      cases region with
      | code =>
          have hne : s ≠ [] := by
            rintro rfl
            by_cases hc : c = '\'' <;> simp [regionAfter, hc] at hend
          have hhead : (s ++ t).head? = s.head? := by
            obtain ⟨d, s, rfl⟩ := List.exists_cons_of_ne_nil hne
            rfl
          simp only [List.cons_append, beforeLastComment?, regionAfter, hhead] at hend ⊢
          split_ifs at hend with hquote hdash
          · rw [if_pos hquote, if_pos hquote, ih hend (by simp)]
          · rw [if_neg hquote, if_neg hquote, if_pos hdash, if_pos hdash]
            by_cases hs : '\n' ∈ s
            · simp [hs, ih hend fun _ => hs]
            · simp [hs, hbreak]
          · rw [if_neg hquote, if_neg hquote, if_neg hdash, if_neg hdash, ih hend (by simp)]
      | literal =>
          simp only [List.cons_append, beforeLastComment?, regionAfter] at hend ⊢
          rw [ih hend (by split_ifs <;> simp)]
      | comment =>
          simp only [List.cons_append, beforeLastComment?, regionAfter] at hend ⊢
          by_cases hc : c = '\n'
          · rw [ih hend (by simp [hc])]
          · have hs : '\n' ∈ s := by simpa [Ne.symm hc] using h rfl
            rw [ih hend fun _ => hs]

/-! ## The body of a statement -/

theorem trimTerminator_isPrefix (t : Text) : trimTerminator t <+: t :=
  ((Text.trimEnd_isPrefix _).trans (Text.dropEndWhile_isPrefix _ _)).trans (Text.trimEnd_isPrefix _)

/-- A text that ends in neither a blank nor a semicolon has no terminator. -/
theorem trimTerminator_eq_self {t : Text}
    (h : ∀ c, t.getLast? = some c → isBlank c = false ∧ c ≠ ';') : trimTerminator t = t := by
  have hblank : Text.trimEnd t = t := Text.dropEndWhile_eq_self fun c hc => (h c hc).1
  have hsemicolon : Text.dropEndWhile (· == ';') t = t :=
    Text.dropEndWhile_eq_self fun c hc => by simpa using (h c hc).2
  rw [trimTerminator, hblank, hsemicolon, hblank]

theorem dropLastComments_eq_self {t : Text} (h : regionAfter .code t ≠ .comment) :
    dropLastComments t = t := by
  have hcut := (beforeLastComment?_eq_none_iff .code (by simp)).2 h
  rw [dropLastComments]
  split
  · rfl
  · rename_i hsome
    rw [hcut] at hsome
    cases hsome

theorem dropLastComments_of_cut {t kept : Text} (h : beforeLastComment? .code t = some kept) :
    dropLastComments t = dropLastComments (trimTerminator kept) := by
  rw [dropLastComments]
  split
  · rename_i hnone
    rw [h] at hnone
    cases hnone
  · rename_i k hsome
    rw [h] at hsome
    cases hsome
    rfl

/-- Each cut leaves a shorter beginning of the text, and the last one no comment to cut. -/
theorem dropLastComments_spec (t : Text) :
    dropLastComments t <+: t ∧ regionAfter .code (dropLastComments t) ≠ .comment := by
  induction hn : t.length using Nat.strongRecOn generalizing t with
  | ind n ih =>
      subst hn
      cases hcut : beforeLastComment? .code t with
      | none =>
          have hend := (beforeLastComment?_eq_none_iff .code (by simp)).1 hcut
          rw [dropLastComments_eq_self hend]
          exact ⟨List.prefix_rfl, hend⟩
      | some kept =>
          have hlength : (trimTerminator kept).length < t.length :=
            Nat.lt_of_le_of_lt (trimTerminator_length_le kept) (beforeLastComment?_length_lt hcut)
          obtain ⟨hpre, hend⟩ := ih _ hlength (trimTerminator kept) rfl
          rw [dropLastComments_of_cut hcut]
          exact ⟨(hpre.trans (trimTerminator_isPrefix kept)).trans (beforeLastComment?_isPrefix hcut),
            hend⟩

theorem body_isPrefix (sql : Text) : body sql <+: Text.trim sql :=
  (dropLastComments_spec _).1.trans (trimTerminator_isPrefix _)

theorem regionAfter_body (sql : Text) : regionAfter .code (body sql) ≠ .comment :=
  (dropLastComments_spec _).2

theorem head?_body {sql : Text} {c : Char} (h : (body sql).head? = some c) : isBlank c = false :=
  Text.head?_trim (Text.head?_of_isPrefix (body_isPrefix sql) h)

/-- A text with firm ends that does not end in a comment is its own body. -/
theorem body_eq_self {t : Text} (hhead : ∀ c, t.head? = some c → isBlank c = false)
    (hlast : ∀ c, t.getLast? = some c → isBlank c = false ∧ c ≠ ';')
    (hend : regionAfter .code t ≠ .comment) : body t = t := by
  rw [body, Text.trim_eq_self hhead fun c hc => (hlast c hc).1, trimTerminator_eq_self hlast,
    dropLastComments_eq_self hend]

/-- A comment that runs to the end of a line is cut off with all that follows on the line. -/
theorem exists_cut_append {s t : Text} (hend : regionAfter .code s = .comment) (hbreak : '\n' ∉ t) :
    ∃ kept, beforeLastComment? .code (s ++ t) = some kept ∧ kept.length + 2 ≤ s.length := by
  obtain ⟨kept, hkept⟩ : ∃ kept, beforeLastComment? .code s = some kept := by
    apply Option.ne_none_iff_exists'.1
    intro hnone
    exact (beforeLastComment?_eq_none_iff .code (by simp)).1 hnone hend
  refine ⟨kept, ?_, add_two_le_length_of_cut hkept⟩
  rw [beforeLastComment?_append hbreak hend (by simp), hkept]

theorem body_length_le_of_cut {t kept : Text}
    (hhead : ∀ c, t.head? = some c → isBlank c = false)
    (hlast : ∀ c, t.getLast? = some c → isBlank c = false ∧ c ≠ ';')
    (h : beforeLastComment? .code t = some kept) : (body t).length ≤ kept.length := by
  rw [body, Text.trim_eq_self hhead fun c hc => (hlast c hc).1, trimTerminator_eq_self hlast,
    dropLastComments_of_cut h]
  have hpre : dropLastComments (trimTerminator kept) <+: kept :=
    (dropLastComments_spec _).1.trans (trimTerminator_isPrefix _)
  exact hpre.length_le

end LotSearch.Statement
