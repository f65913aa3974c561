import LotSearch.Json.Reader
import Mathlib

/-!
# Spaces, items and fields

A list is read item by item and an object field by field, with spaces around each of them.  When
every item or field is read up to the spaces at its end, whatever comes behind, the whole list or
object is.  When every field keeps a property of what was read so far, the whole object has it.
-/

namespace LotSearch

theorem bind_eq_ok_iff {ε α β : Type} {x : Except ε α} {f : α → Except ε β} {b : β} :
    x >>= f = .ok b ↔ ∃ a, x = .ok a ∧ f a = .ok b := by
  cases x <;> simp [bind, Except.bind]

namespace Json

/-! ## Spaces -/

def Spaces (t : Text) : Prop := ∀ c ∈ t, isSpace c = true

theorem skipSpace_cons {c : Char} (hc : isSpace c = false) (t : Text) :
    skipSpace (c :: t) = c :: t := by
  simp [skipSpace, hc]

theorem skipSpace_append {gap : Text} (h : Spaces gap) (t : Text) :
    skipSpace (gap ++ t) = skipSpace t :=
  List.dropWhile_append_of_pos h

theorem skipSpace_append_cons {gap : Text} (h : Spaces gap) {c : Char} (hc : isSpace c = false)
    (t : Text) : skipSpace (gap ++ c :: t) = c :: t := by
  rw [skipSpace_append h, skipSpace_cons hc]

@[simp] theorem skipSpace_skipSpace (t : Text) : skipSpace (skipSpace t) = skipSpace t :=
  List.dropWhile_idempotent isSpace t

theorem exists_spaces_append (t : Text) : ∃ gap, Spaces gap ∧ t = gap ++ skipSpace t :=
  ⟨t.takeWhile isSpace, fun _ hc => List.mem_takeWhile_imp hc,
    List.takeWhile_append_dropWhile.symm⟩

/-- What may stand behind a value: a space, or what ends an item or a field. -/
def Ends (t : Text) : Prop := ∀ c ∈ t.head?, isSpace c = true ∨ c ∈ [',', ']', '\x7d']

theorem ends_cons {c : Char} (h : c ∈ [',', ']', '\x7d']) (t : Text) : Ends (c :: t) := by
  rintro d hd
  obtain rfl : c = d := by simpa using hd
  exact .inr h

theorem Ends.append {gap t : Text} (ht : Ends t) (hgap : Spaces gap) : Ends (gap ++ t) := by
  cases gap with
  | nil => exact ht
  | cons c gap =>
      rintro d hd
      obtain rfl : c = d := by simpa using hd
      exact .inl (hgap c List.mem_cons_self)

theorem readName_append {ν : Type} {quoted : Text → Reading (ν × Text)} {gap n r : Text} {name : ν}
    (hgap : Spaces gap) (h : quoted (n ++ '"' :: r) = .ok (name, r)) :
    readName quoted (gap ++ '"' :: (n ++ '"' :: r)) = .ok (name, r) := by
  rw [readName, skipSpace_append_cons hgap (by decide)]
  exact h

theorem readColon_append {gap : Text} (hgap : Spaces gap) (t : Text) :
    readColon (gap ++ ':' :: t) = .ok t := by
  simp only [readColon, skipSpace_append_cons hgap (c := ':') (by decide)]

/-! ## Items -/

/-- The text of an item is read up to the spaces at its end. -/
def ReadsItem {α : Type} (item : Text → Reading (α × Text)) (x : α) (u : Text) : Prop :=
  ∀ rest, Ends rest → ∃ gap, Spaces gap ∧ gap <:+ u ∧ item (u ++ rest) = .ok (x, gap ++ rest)

/-- The first item of a text is read, and the others behind it. -/
def ReadsItems {α : Type} (item : Text → Reading (α × Text)) (xs : List α) (u : Text) : Prop :=
  ∀ rest, ∃ x xs' behind, xs = x :: xs' ∧ item (u ++ ']' :: rest) = .ok (x, behind) ∧
    behind.length ≤ (u ++ ']' :: rest).length ∧
      ∀ fuel, behind.length ≤ fuel → readMoreItems item fuel behind = .ok (xs', rest)

section

variable {α : Type} {item : Text → Reading (α × Text)} {x : α} {xs : List α} {u v : Text}

theorem ReadsItem.one (h : ReadsItem item x u) : ReadsItems item [x] u := by
  intro rest
  obtain ⟨gap, hgap, hsuffix, hitem⟩ := h (']' :: rest) (ends_cons (by simp) rest)
  have hlength := hsuffix.length_le
  refine ⟨x, [], _, rfl, hitem, by simpa using hlength, fun fuel hfuel => ?_⟩
  cases fuel with
  | zero => simp at hfuel
  | succ fuel =>
      rw [readMoreItems, skipSpace_append_cons hgap (by decide)]
      rfl

theorem ReadsItems.more (hs : ReadsItems item xs v) (h : ReadsItem item x u) :
    ReadsItems item (x :: xs) (u ++ ',' :: v) := by
  intro rest
  obtain ⟨gap, hgap, hsuffix, hitem⟩ := h (',' :: (v ++ ']' :: rest)) (ends_cons (by simp) _)
  obtain ⟨y, ys, behind, hxs, hnext, hbehind, hmore⟩ := hs rest
  have hlength := hsuffix.length_le
  rw [List.append_assoc, List.cons_append]
  refine ⟨x, xs, _, rfl, hitem, by simpa using hlength, fun fuel hfuel => ?_⟩
  cases fuel with
  | zero => simp at hfuel
  | succ fuel =>
      have hmore := hmore fuel (by simp at hbehind hfuel; omega)
      simp only [readMoreItems, skipSpace_append_cons hgap (c := ',') (by decide), hnext, hmore,
        hxs, bind, Except.bind, pure, Except.pure]

end

/-! ## Fields -/

section

variable {ν σ : Type} {quoted : Text → Reading (ν × Text)}
  {field : σ → ν → Text → Reading (σ × Text)} {s s₁ s' : σ} {u v : Text}

/-- The text of a field is read up to the spaces at its end and changes the state. -/
def ReadsField (quoted : Text → Reading (ν × Text)) (field : σ → ν → Text → Reading (σ × Text))
    (s s' : σ) (u : Text) : Prop :=
  ∀ rest, Ends rest → ∃ name behind gap, readName quoted (u ++ rest) = .ok (name, behind) ∧
    Spaces gap ∧ gap <:+ u ∧ field s name behind = .ok (s', gap ++ rest)

/-- The first field of a text is read, and the others behind it. -/
def ReadsFields (quoted : Text → Reading (ν × Text)) (field : σ → ν → Text → Reading (σ × Text))
    (s s' : σ) (u : Text) : Prop :=
  ∀ rest, ∃ name behind s₁ behind', readName quoted (u ++ '\x7d' :: rest) = .ok (name, behind) ∧
    field s name behind = .ok (s₁, behind') ∧
      behind'.length ≤ (u ++ '\x7d' :: rest).length ∧
        ∀ fuel, behind'.length ≤ fuel →
          readMoreFields quoted field fuel s₁ behind' = .ok (s', rest)

theorem ReadsField.one (h : ReadsField quoted field s s' u) :
    ReadsFields quoted field s s' u := by
  intro rest
  obtain ⟨name, behind, gap, hname, hgap, hsuffix, hfield⟩ :=
    h ('\x7d' :: rest) (ends_cons (by simp) rest)
  have hlength := hsuffix.length_le
  refine ⟨name, behind, s', _, hname, hfield, by simpa using hlength, fun fuel hfuel => ?_⟩
  cases fuel with
  | zero => simp at hfuel
  | succ fuel =>
      rw [readMoreFields, skipSpace_append_cons hgap (by decide)]
      rfl

theorem ReadsFields.more (hs : ReadsFields quoted field s₁ s' v)
    (h : ReadsField quoted field s s₁ u) : ReadsFields quoted field s s' (u ++ ',' :: v) := by
  intro rest
  obtain ⟨name, behind, gap, hname, hgap, hsuffix, hfield⟩ :=
    h (',' :: (v ++ '\x7d' :: rest)) (ends_cons (by simp) _)
  obtain ⟨name', behind', s₂, behind'', hname', hfield', hbehind, hmore⟩ := hs rest
  have hlength := hsuffix.length_le
  rw [List.append_assoc, List.cons_append]
  refine ⟨name, behind, s₁, _, hname, hfield, by simpa using hlength, fun fuel hfuel => ?_⟩
  cases fuel with
  | zero => simp at hfuel
  | succ fuel =>
      have hmore := hmore fuel (by simp at hbehind hfuel; omega)
      simp only [readMoreFields, skipSpace_append_cons hgap (c := ',') (by decide), hname', hfield',
        hmore, bind, Except.bind]

theorem ReadsFields.readFields (h : ReadsFields quoted field s s' u) (rest : Text) :
    readFields quoted field s (u ++ '\x7d' :: rest) = .ok (s', rest) := by
  obtain ⟨name, behind, s₁, behind', hname, hfield, -, hmore⟩ := h rest
  have hmore := hmore _ (le_refl _)
  obtain ⟨w, hw⟩ : ∃ w, skipSpace (u ++ '\x7d' :: rest) = '"' :: w := by
    rw [readName] at hname
    split at hname
    · next w hskip => exact ⟨w, hskip⟩
    · cases hname
  have hfirst : readName quoted ('"' :: w) = .ok (name, behind) := by
    rw [← hname, ← hw, readName, readName, skipSpace_skipSpace]
  simp [Json.readFields, hw, hfirst, hfield, hmore, bind, Except.bind]

end

/-! ## What fields keep -/

section

variable {ν σ : Type} {quoted : Text → Reading (ν × Text)}
  {field : σ → ν → Text → Reading (σ × Text)} {Kept : σ → Prop}
  (hfield : ∀ {s s' name t rest}, field s name t = .ok (s', rest) → Kept s → Kept s')

include hfield

theorem kept_of_readMoreFields {fuel : Nat} {s s' : σ} {t rest : Text}
    (h : readMoreFields quoted field fuel s t = .ok (s', rest)) (hs : Kept s) : Kept s' := by
  induction fuel generalizing s t with
  | zero => cases h
  | succ fuel ih =>
      rw [readMoreFields] at h
      split at h
      · cases h
        exact hs
      · obtain ⟨⟨name, r⟩, -, h⟩ := bind_eq_ok_iff.1 h
        obtain ⟨⟨s₁, r₁⟩, hfirst, h⟩ := bind_eq_ok_iff.1 h
        exact ih h (hfield hfirst hs)
      · cases h

/-- What every field keeps holds of an object that was read. -/
theorem kept_of_readFields {s s' : σ} {t rest : Text}
    (h : readFields quoted field s t = .ok (s', rest)) (hs : Kept s) : Kept s' := by
  rw [readFields] at h
  split at h
  · cases h
    exact hs
  · obtain ⟨⟨name, r⟩, -, h⟩ := bind_eq_ok_iff.1 h
    obtain ⟨⟨s₁, r₁⟩, hfirst, h⟩ := bind_eq_ok_iff.1 h
    exact kept_of_readMoreFields hfield h (hfield hfirst hs)

end

end Json

end LotSearch
