import LotSearch.Proofs.Statement.Region
import LotSearch.Proofs.Text.Character

/-!
# Zones of a statement

The database reads a statement with one more kind of quotes than the gate does: between double
quotes stands an identifier, in which neither a single quote nor two hyphens mean anything.  Where
identifiers hold neither, the gate and the database see the same literals and comments.
-/

namespace LotSearch.Statement

/-- What the characters at a place of a statement belong to for the database. -/
inductive Zone where
  | code
  | literal
  | identifier
  | comment
deriving Repr, DecidableEq

namespace Zone

/-- The zone behind one more character; `hyphen` tells whether a hyphen stands before it. -/
def next (hyphen : Bool) (c : Char) : Zone → Zone
  | code =>
      if c = '\'' then literal
      else if c = '"' then identifier
      else if c = '-' && hyphen then comment
      else code
  | literal => if c = '\'' then code else literal
  | identifier => if c = '"' then code else identifier
  | comment => if c = '\n' then code else comment

def after : Bool → Zone → Text → Zone
  | _, zone, [] => zone
  | hyphen, zone, c :: t => after (c == '-') (zone.next hyphen c) t

/-- What the gate takes a zone for. -/
def region : Zone → Region
  | code => .code
  | literal => .literal
  | identifier => .code
  | comment => .comment

end Zone

def zoneAfter (t : Text) : Zone := Zone.after false .code t

theorem Zone.after_append (hyphen : Bool) (zone : Zone) (s t : Text) :
    after hyphen zone (s ++ t) =
      after ((s.getLast?.map (· == '-')).getD hyphen) (after hyphen zone s) t := by
  induction s generalizing hyphen zone with
  | nil => rfl
  | cons c s ih =>
      rw [List.cons_append, after, ih, after, List.getLast?_cons]
      cases s.getLast? <;> rfl

theorem zoneAfter_append (s t : Text) :
    zoneAfter (s ++ t) = Zone.after (s.getLast? == some '-') (zoneAfter s) t := by
  rw [zoneAfter, Zone.after_append, ← zoneAfter]
  congr 1
  cases s.getLast? <;> simp

theorem zoneAfter_concat (t : Text) (c : Char) :
    zoneAfter (t ++ [c]) = (zoneAfter t).next (t.getLast? == some '-') c :=
  zoneAfter_append t [c]

/-- Identifiers without single quotes and without two hyphens in a row. -/
def PlainIdentifiers (t : Text) : Prop :=
  ∀ u rest, t = u ++ rest → zoneAfter u = .identifier →
    rest.head? ≠ some '\'' ∧ ¬ ['-', '-'] <+: rest

theorem plainIdentifiers_of_forall_le {t : Text}
    (h : ∀ i ≤ t.length, zoneAfter (t.take i) = .identifier →
      (t.drop i).head? ≠ some '\'' ∧ ¬ ['-', '-'] <+: t.drop i) : PlainIdentifiers t := by
  rintro u rest rfl hzone
  simpa using h u.length (by simp) (by simpa using hzone)

def EndsOutside (t : Text) : Prop := zoneAfter t = .code ∨ zoneAfter t = .comment

/-! ## What the gate sees -/

theorem zoneAfter_of_concat_hyphen {t : Text} (h : zoneAfter (t ++ ['-']) = .identifier) :
    zoneAfter t = .identifier := by
  rw [zoneAfter_concat] at h
  cases hzone : zoneAfter t with
  | identifier => rfl
  | code =>
      rw [hzone] at h
      simp only [Zone.next] at h
      split_ifs at h with hquote hdouble
      exact absurd hdouble (by decide)
  | literal =>
      rw [hzone] at h
      cases h
  | comment =>
      rw [hzone] at h
      cases h

/-- The gate takes plain identifiers for code, and sees all else as the database does. -/
theorem PlainIdentifiers.region_zoneAfter {t u rest : Text} (h : PlainIdentifiers t)
    (hsplit : t = u ++ rest) : (zoneAfter u).region = regionAfter .code u := by
  induction u using List.reverseRecOn generalizing rest with
  | nil => rfl
  | append_singleton u c ih =>
      rw [List.append_assoc] at hsplit
      have hbefore := ih hsplit
      rw [zoneAfter_concat, regionAfter_concat, ← hbefore]
      cases hzone : zoneAfter u with
      | code =>
          by_cases hquote : c = '"'
          · simp [hquote, Zone.next, Region.next, Zone.region]
          · simp only [Zone.next, Region.next, Zone.region, if_neg hquote]
            split_ifs <;> rfl
      | literal =>
          simp only [Zone.next, Region.next, Zone.region]
          split_ifs <;> rfl
      | comment =>
          simp only [Zone.next, Region.next, Zone.region]
          split_ifs <;> rfl
      | identifier =>
          obtain ⟨hquote, -⟩ := h u _ hsplit hzone
          have hc : c ≠ '\'' := by simpa using hquote
          have hmark : ¬ (c = '-' ∧ u.getLast? = some '-') := by
            rintro ⟨rfl, hlast⟩
            obtain ⟨u, rfl⟩ := List.getLast?_eq_some_iff.1 hlast
            have hinside := zoneAfter_of_concat_hyphen hzone
            rw [List.append_assoc] at hsplit
            exact (h u _ hsplit hinside).2 ⟨rest, rfl⟩
          have hcode : Region.next (u.getLast? == some '-') c .code = .code := by
            simp [Region.next, hc, hmark]
          simp only [Zone.region] at hcode ⊢
          rw [hcode]
          simp only [Zone.next]
          split_ifs <;> rfl

theorem PlainIdentifiers.of_isPrefix {t u : Text} (h : PlainIdentifiers t) (hu : u <+: t) :
    PlainIdentifiers u := by
  obtain ⟨more, rfl⟩ := hu
  rintro v rest rfl hzone
  rw [PlainIdentifiers] at h
  obtain ⟨hquote, hmark⟩ := h v (rest ++ more) (List.append_assoc _ _ _) hzone
  refine ⟨fun hhead => hquote ?_, fun hpre => hmark (hpre.trans (List.prefix_append _ _))⟩
  rw [List.head?_append, hhead]
  rfl

/-! ## Blanks around a statement -/

theorem zoneAfter_append_of_blank {gap : Text} (hgap : ∀ c ∈ gap, isBlank c = true) (t : Text) :
    zoneAfter (gap ++ t) = zoneAfter t := by
  induction gap with
  | nil => rfl
  | cons c gap ih =>
      obtain ⟨hc, hrest⟩ := List.forall_mem_cons.1 hgap
      have hquote : c ≠ '\'' := ne_of_class hc (by decide)
      have hdouble : c ≠ '"' := ne_of_class hc (by decide)
      have hhyphen : c ≠ '-' := ne_of_class hc (by decide)
      have hnext : Zone.next false c .code = .code := by simp [Zone.next, hquote, hdouble]
      rw [zoneAfter, List.cons_append, Zone.after, hnext, beq_false_of_ne hhyphen]
      exact ih hrest

theorem PlainIdentifiers.of_blank_append {gap t : Text} (hgap : ∀ c ∈ gap, isBlank c = true)
    (h : PlainIdentifiers (gap ++ t)) : PlainIdentifiers t := by
  rintro u rest rfl hzone
  exact h (gap ++ u) rest (List.append_assoc _ _ _).symm
    ((zoneAfter_append_of_blank hgap u).trans hzone)

/-- Without a quote behind it, a literal or an identifier does not end. -/
theorem EndsOutside.of_append {t gap : Text} (h : EndsOutside (t ++ gap))
    (hgap : ∀ c ∈ gap, c ≠ '\'' ∧ c ≠ '"') : EndsOutside t := by
  induction gap using List.reverseRecOn with
  | nil => rwa [List.append_nil] at h
  | append_singleton gap c ih =>
      obtain ⟨hbefore, hlast⟩ := List.forall_mem_append.1 hgap
      obtain ⟨hquote, hdouble⟩ := hlast c (List.mem_singleton.2 rfl)
      refine ih ?_ hbefore
      rw [← List.append_assoc] at h
      rw [EndsOutside, zoneAfter_concat] at h
      rw [EndsOutside]
      cases hzone : zoneAfter (t ++ gap) with
      | code => exact .inl rfl
      | comment => exact .inr rfl
      | literal => simp [hzone, Zone.next, hquote] at h
      | identifier => simp [hzone, Zone.next, hdouble] at h

theorem exists_append_dropEndWhile (p : Char → Bool) (t : Text) :
    ∃ gap, t = Text.dropEndWhile p t ++ gap ∧ ∀ c ∈ gap, p c = true := by
  refine ⟨(t.reverse.takeWhile p).reverse, ?_, fun c hc => ?_⟩
  · rw [Text.dropEndWhile, ← List.reverse_append, List.takeWhile_append_dropWhile,
      List.reverse_reverse]
  · exact List.mem_takeWhile_imp (List.mem_reverse.1 hc)

theorem EndsOutside.dropEndWhile {p : Char → Bool} (hp : ∀ c, p c = true → c ≠ '\'' ∧ c ≠ '"')
    {t : Text} (h : EndsOutside t) : EndsOutside (Text.dropEndWhile p t) := by
  obtain ⟨gap, hsplit, hgap⟩ := exists_append_dropEndWhile p t
  rw [hsplit] at h
  exact h.of_append fun c hc => hp c (hgap c hc)

theorem EndsOutside.trimEnd {t : Text} (h : EndsOutside t) : EndsOutside (Text.trimEnd t) :=
  h.dropEndWhile fun _ hc => ⟨ne_of_class hc (by decide), ne_of_class hc (by decide)⟩

theorem EndsOutside.trimTerminator {t : Text} (h : EndsOutside t) :
    EndsOutside (trimTerminator t) := by
  refine (h.trimEnd.dropEndWhile fun c hc => ?_).trimEnd
  obtain rfl : c = ';' := by simpa using hc
  decide

theorem trim_of_endsOutside {sql : Text} (hplain : PlainIdentifiers sql) (hend : EndsOutside sql) :
    PlainIdentifiers (Text.trim sql) ∧ EndsOutside (Text.trim sql) := by
  have hgap : ∀ c ∈ sql.takeWhile isBlank, isBlank c = true := fun _ hc => List.mem_takeWhile_imp hc
  have hsplit : sql = sql.takeWhile isBlank ++ Text.trimStart sql :=
    List.takeWhile_append_dropWhile.symm
  have hstart : PlainIdentifiers (Text.trimStart sql) := by
    rw [hsplit] at hplain
    exact hplain.of_blank_append hgap
  have hend_start : EndsOutside (Text.trimStart sql) := by
    rw [EndsOutside, hsplit, zoneAfter_append_of_blank hgap] at hend
    exact hend
  exact ⟨hstart.of_isPrefix (Text.trimEnd_isPrefix _), hend_start.trimEnd⟩

/-! ## The end of a body -/

theorem regionAfter_of_cut {region : Region} {t kept : Text}
    (h : beforeLastComment? region t = some kept) :
    regionAfter region kept = .code ∧ kept ++ ['-', '-'] <+: t := by
  induction t generalizing region kept with
  | nil => cases region <;> simp [beforeLastComment?] at h
  | cons c t ih =>
      have step : ∀ {r : Region}, (beforeLastComment? r t).map (c :: ·) = some kept →
          ∃ k, kept = c :: k ∧ k <+: t ∧ regionAfter r k = .code ∧
            c :: k ++ ['-', '-'] <+: c :: t := by
        intro r hr
        obtain ⟨k, hk, rfl⟩ := Option.map_eq_some_iff.1 hr
        obtain ⟨hcode, hmark⟩ := ih hk
        exact ⟨k, rfl, beforeLastComment?_isPrefix hk, hcode, (List.prefix_cons_inj c).2 hmark⟩
      cases region with
      | code =>
          simp only [beforeLastComment?] at h
          split_ifs at h with hquote hdash hbreak
          · obtain ⟨k, rfl, -, hcode, hmark⟩ := step h
            exact ⟨by simpa [regionAfter, hquote] using hcode, hmark⟩
          · obtain ⟨k, rfl, hpre, hcode, hmark⟩ := step h
            have hne : k ≠ [] := by
              rintro rfl
              cases hcode
            obtain ⟨d, k, rfl⟩ := List.exists_cons_of_ne_nil hne
            have hhead := Text.head?_of_isPrefix hpre rfl
            simp only [Bool.and_eq_true, decide_eq_true_eq, hhead, Option.some.injEq] at hdash
            obtain ⟨rfl, rfl⟩ := hdash
            exact ⟨by simpa [regionAfter] using hcode, hmark⟩
          · cases h
            simp only [Bool.and_eq_true, decide_eq_true_eq] at hdash
            obtain ⟨rfl, hhead⟩ := hdash
            obtain ⟨rest, rfl⟩ := List.head?_eq_some_iff.1 hhead
            exact ⟨rfl, rest, rfl⟩
          · obtain ⟨k, rfl, hpre, hcode, hmark⟩ := step h
            have hmarker : ¬ (c = '-' ∧ k.head? = some '-') := by
              rintro ⟨hc, hhead⟩
              exact hdash (by simp [hc, Text.head?_of_isPrefix hpre hhead])
            exact ⟨by simpa [regionAfter, hquote, hmarker] using hcode, hmark⟩
      | literal =>
          obtain ⟨k, rfl, -, hcode, hmark⟩ := step h
          exact ⟨hcode, hmark⟩
      | comment =>
          obtain ⟨k, rfl, -, hcode, hmark⟩ := step h
          exact ⟨hcode, hmark⟩

theorem zoneAfter_dropLastComments {t : Text} (hplain : PlainIdentifiers t)
    (hend : EndsOutside t) : zoneAfter (dropLastComments t) = .code := by
  induction hn : t.length using Nat.strongRecOn generalizing t with
  | ind n ih =>
      subst hn
      have hregion := hplain.region_zoneAfter (List.append_nil t).symm
      cases hcut : beforeLastComment? .code t with
      | none =>
          have hcomment := (beforeLastComment?_eq_none_iff .code (by simp)).1 hcut
          rw [dropLastComments_eq_self hcomment]
          rcases hend with hzone | hzone
          · exact hzone
          · rw [hzone] at hregion
            exact absurd hregion.symm hcomment
      | some kept =>
          obtain ⟨hcode, hmark⟩ := regionAfter_of_cut hcut
          have hpre : kept <+: t := beforeLastComment?_isPrefix hcut
          have hzone : zoneAfter kept = .code := by
            obtain ⟨rest, hrest⟩ := hmark
            rw [List.append_assoc] at hrest
            have hkept := hplain.region_zoneAfter hrest.symm
            cases hkept_zone : zoneAfter kept with
            | code => rfl
            | identifier =>
                exact absurd (List.prefix_append _ _) (hplain kept _ hrest.symm hkept_zone).2
            | literal =>
                rw [hkept_zone, hcode] at hkept
                cases hkept
            | comment =>
                rw [hkept_zone, hcode] at hkept
                cases hkept
          rw [dropLastComments_of_cut hcut]
          refine ih _ ?_ ?_ (EndsOutside.trimTerminator (.inl hzone)) rfl
          · exact Nat.lt_of_le_of_lt (trimTerminator_length_le kept)
              (beforeLastComment?_length_lt hcut)
          · exact hplain.of_isPrefix ((trimTerminator_isPrefix kept).trans hpre)

theorem zoneAfter_body {sql : Text} (hplain : PlainIdentifiers sql) (hend : EndsOutside sql) :
    PlainIdentifiers (body sql) ∧ zoneAfter (body sql) = .code := by
  obtain ⟨hplain, hend⟩ := trim_of_endsOutside hplain hend
  refine ⟨hplain.of_isPrefix (body_isPrefix sql), ?_⟩
  exact zoneAfter_dropLastComments (hplain.of_isPrefix (trimTerminator_isPrefix _))
    hend.trimTerminator

end LotSearch.Statement
