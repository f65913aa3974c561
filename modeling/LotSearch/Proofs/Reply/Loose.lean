import LotSearch.Proofs.Reply.Object
import LotSearch.Proofs.Text.Trim

/-!
# A statement outside an object

When no object is found in a reply, or none that can be read, the statement is looked for on its
own: behind the first place at which its quoted name, a colon and a quoted text stand.  A quoted name
overlaps another one only in a quote.  Behind such an overlap the name comes again instead of a
colon, so nothing is taken from there.
-/

namespace LotSearch.Reply

open Json

/-- A name as it stands in an object, when it is written without escapes. -/
def quoted (name : Text) : Text := '"' :: name ++ ['"']

/-- A name without quotes that no blank and no colon begins. -/
def IsLooseName (name : Text) : Prop :=
  '"' ∉ name ∧ ∃ c t, name = c :: t ∧ isBlank c = false ∧ c ≠ ':'

theorem quoted_append (name t : Text) : quoted name ++ t = '"' :: (name ++ '"' :: t) := by
  simp [quoted]

section

variable {name before rest : Text}

/-- Behind a quoted name that overlaps another one the name comes again. -/
theorem eq_append_of_overlap (hname : '"' ∉ name) (hbefore : ¬ quoted name <:+: before)
    (hne : before ≠ []) {r : Text} (h : before ++ (quoted name ++ rest) = quoted name ++ r) :
    r = name ++ '"' :: rest := by
  obtain ⟨c, y, rfl⟩ := List.exists_cons_of_ne_nil hne
  rw [quoted_append, quoted_append] at h
  obtain ⟨rfl, htail⟩ := List.cons.inj h
  rcases List.append_eq_append_iff.1 htail with ⟨k, rfl, hk⟩ | ⟨k, rfl, hk⟩
  · cases k with
    | nil => exact ((List.cons.inj hk).2).symm
    | cons d k =>
        obtain ⟨rfl, -⟩ := List.cons.inj hk
        simp at hname
  · cases k with
    | nil => exact (List.cons.inj hk).2
    | cons d k =>
        obtain ⟨rfl, -⟩ := List.cons.inj hk
        exact absurd ⟨[], k, by simp [quoted]⟩ hbefore

/-- Nothing is taken before the first place where the quoted name stands. -/
theorem fieldAt?_eq_none (hname : IsLooseName name) (hbefore : ¬ quoted name <:+: before)
    (hne : before ≠ []) (rest : Text) :
    fieldAt? name (before ++ (quoted name ++ rest)) = none := by
  obtain ⟨hquote, c, t, rfl, hblank, hcolon⟩ := hname
  rw [fieldAt?, show '"' :: (c :: t) ++ ['"'] = quoted (c :: t) from rfl]
  cases hafter : Text.after? (quoted (c :: t)) (before ++ (quoted (c :: t) ++ rest)) with
  | none => rfl
  | some r =>
      obtain rfl := eq_append_of_overlap hquote hbefore hne (Text.after?_eq_some_iff.1 hafter)
      simp [Text.trimStart, hblank, hcolon]

theorem field?_append (hname : IsLooseName name) (hbefore : ¬ quoted name <:+: before)
    {inside : Text} (h : fieldAt? name (quoted name ++ rest) = some inside) :
    field? name (before ++ (quoted name ++ rest)) = some inside := by
  induction before with
  | nil =>
      rw [quoted_append] at h
      rw [List.nil_append, quoted_append, field?, h]
  | cons c before ih =>
      have hnone := fieldAt?_eq_none hname hbefore (List.cons_ne_nil c before) rest
      rw [List.cons_append] at hnone
      rw [List.cons_append, field?, hnone]
      exact ih fun hinfix => hbefore (List.infix_cons hinfix)

/-- A quoted text is taken up to its closing quote. -/
theorem fieldAt?_quoted {w w' s v : Text} (hw : ∀ c ∈ w, isBlank c = true)
    (hw' : ∀ c ∈ w', isBlank c = true) (hv : Writes s v) (after : Text) :
    fieldAt? name (quoted name ++ (w ++ ':' :: (w' ++ '"' :: (v ++ '"' :: after)))) = some v := by
  have hskip : ∀ {u : Text} {c : Char} (t : Text), (∀ d ∈ u, isBlank d = true) →
      isBlank c = false → Text.trimStart (u ++ c :: t) = c :: t := fun t hu hc =>
    Text.trimStart_append hu (by simpa using hc)
  have hafter := Text.after?_eq_some_iff.2 (Eq.refl (quoted name ++
    (w ++ ':' :: (w' ++ '"' :: (v ++ '"' :: after)))))
  rw [fieldAt?, show '"' :: name ++ ['"'] = quoted name from rfl, hafter, Option.map_some,
    hskip _ hw (by decide)]
  simp only [hskip _ hw' (c := '"') (by decide), hv.inside.splitQuoted_append, Option.map_some]

end

/-- A statement that stands behind its quoted name and a colon is read from each way to write it,
when no object can be read. -/
theorem read_loose_statement {before w w' s v after : Text} (hs : Text.trim s ≠ [])
    (hbefore : ¬ quoted "sql".toList <:+: before) (hw : ∀ c ∈ w, isBlank c = true)
    (hw' : ∀ c ∈ w', isBlank c = true) (hv : Writes s v) {t : Text}
    (ht : t = before ++ (quoted "sql".toList ++ (w ++ ':' :: (w' ++ '"' :: (v ++ '"' :: after)))))
    (hnone : ∀ u ∈ candidates t, ofObject? u = none) :
    read? t = some ⟨Text.trim s,
      shownExplanation ((field? "explanation".toList t).map decoded)⟩ := by
  have hname : IsLooseName "sql".toList := ⟨by decide, 's', _, rfl, by decide, by decide⟩
  have hfield : field? "sql".toList t = some v := by
    rw [ht]
    exact field?_append hname hbefore (fieldAt?_quoted hw hw' hv after)
  have hdecoded : decoded v = s := by simp [decoded, hv.unescape?_eq]
  have hobject : (candidates t).findSome? ofObject? = none := List.findSome?_eq_none_iff.2 hnone
  rw [read?, hobject]
  simp only [ofLooseFields?, hfield, Option.map_some, hdecoded]
  exact ofFields_some hs _

/-- An object with a comma behind its last field, which is not read as one. -/
def brokenReply : Text :=
  "Sure: \x7b\"sql\" :\n\"\\u0053ELECT \\\"bbl\\\" FROM properties\",".toList ++
    "\"explanation\": \"All lots\",\x7d".toList

theorem read_broken_reply :
    read? brokenReply = some ⟨"SELECT \"bbl\" FROM properties".toList, "All lots".toList⟩ := by
  have hunit : IsUnit '0' '0' '5' '3' 'S'.toNat := by
    have hdigit : ∀ d < 10, IsHexDigit (Nat.digitChar d) d := fun d hd => ⟨by omega, .inl rfl⟩
    exact ⟨0, 0, 5, 3, hdigit 0 (by decide), hdigit 0 (by decide), hdigit 5 (by decide),
      hdigit 3 (by decide), rfl⟩
  have hwrites : Writes "SELECT \"bbl\" FROM properties".toList
      ("\\u0053".toList ++ escape "ELECT \"bbl\" FROM properties".toList) :=
    .cons (.unit hunit) (writes_escape _)
  have hread := @read_loose_statement "Sure: \x7b".toList " ".toList "\n".toList _ _
    ",\"explanation\": \"All lots\",\x7d".toList (by decide) (by decide)
    (forall_mem_of_all (by decide)) (forall_mem_of_all (by decide)) hwrites brokenReply
    (by decide +kernel) (by decide +kernel)
  rw [hread]
  decide +kernel

end LotSearch.Reply
