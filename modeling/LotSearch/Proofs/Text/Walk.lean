import LotSearch.Text.Pattern
import Mathlib

/-!
# What a pattern covers

A fit of a pattern is a walk from one place of a text to a later one, and the characters between
the two places are spelled by the pattern.  What a group covers is spelled by a part of the
pattern that carries the number of the group, so the texts a group can take are read off the
pattern alone.
-/

namespace LotSearch.Pattern

/-- The ways of a pattern from one place to another, whatever their order of preference. -/
inductive Walk : Pattern → Place → Place → Prop
  | empty {s : Place} : Walk empty s s
  | one {accepts : Char → Bool} {s : Place} {c : Char} {rest : Text} (hrest : s.rest = c :: rest)
      (hc : accepts c = true) : Walk (one accepts) s (s.advance c rest)
  | seq {p q : Pattern} {s₁ s₂ s₃ : Place} (hp : Walk p s₁ s₂) (hq : Walk q s₂ s₃) :
      Walk (seq p q) s₁ s₃
  | first {p q : Pattern} {s s' : Place} (hp : Walk p s s') : Walk (either p q) s s'
  | second {p q : Pattern} {s s' : Place} (hq : Walk q s s') : Walk (either p q) s s'
  | stay {accepts : Char → Bool} {s : Place} : Walk (many accepts) s s
  | more {accepts : Char → Bool} {s s' : Place} {c : Char} {rest : Text}
      (hrest : s.rest = c :: rest) (hc : accepts c = true)
      (hmore : Walk (many accepts) (s.advance c rest) s') : Walk (many accepts) s s'
  | group {number : Nat} {body : Pattern} {s s' : Place} (hbody : Walk body s s') :
      Walk (group number body) s
        { s' with groups := (number, ⟨s.position, s.rest, s'.position - s.position⟩) :: s'.groups }
  | edge {s : Place} (h : Text.boundary s.previous s.rest.head? = true) : Walk edge s s
  | outside {accepts : Char → Bool} {s : Place}
      (h : (s.previous.any accepts && s.rest.head?.any accepts) = false) :
      Walk (outside accepts) s s

theorem walk_of_fitMany {accepts : Char → Bool} {next : Place → Option Place}
    {groups : List (Nat × Span)} {previous : Option Char} {position : Nat} {rest : Text}
    {found : Place} (h : fitMany accepts next groups previous position rest = some found) :
    ∃ s, Walk (many accepts) ⟨previous, position, rest, groups⟩ s ∧ next s = some found := by
  induction rest generalizing previous position with
  | nil => exact ⟨_, .stay, h⟩
  | cons c rest ih =>
      simp only [fitMany] at h
      by_cases hc : accepts c = true
      · simp only [hc, if_true] at h
        split at h
        · rename_i found' hfound
          cases h
          obtain ⟨s, hwalk, hnext⟩ := ih hfound
          exact ⟨s, .more rfl hc hwalk, hnext⟩
        · exact ⟨_, .stay, h⟩
      · simp only [hc] at h
        exact ⟨_, .stay, h⟩

/-- Every fit is a walk, to a place from which the fit goes on. -/
theorem walk_of_fit {p : Pattern} {next : Place → Option Place} {s found : Place}
    (h : p.fit next s = some found) : ∃ s', Walk p s s' ∧ next s' = some found := by
  induction p generalizing next s with
  | empty => exact ⟨s, .empty, h⟩
  | one accepts =>
      simp only [fit] at h
      split at h
      · cases h
      · rename_i c rest hrest
        split at h
        · rename_i hc
          exact ⟨_, .one hrest hc, h⟩
        · cases h
  | seq p q ihp ihq =>
      obtain ⟨s₂, hp, hfit⟩ := ihp h
      obtain ⟨s₃, hq, hnext⟩ := ihq hfit
      exact ⟨s₃, .seq hp hq, hnext⟩
  | either p q ihp ihq =>
      simp only [fit] at h
      split at h
      · rename_i found' hfound
        cases h
        obtain ⟨s', hp, hnext⟩ := ihp hfound
        exact ⟨s', .first hp, hnext⟩
      · obtain ⟨s', hq, hnext⟩ := ihq h
        exact ⟨s', .second hq, hnext⟩
  | many accepts => exact walk_of_fitMany h
  | group number body ih =>
      obtain ⟨s', hbody, hnext⟩ := ih h
      exact ⟨_, .group hbody, hnext⟩
  | edge =>
      simp only [fit] at h
      split at h
      · rename_i hedge
        exact ⟨s, .edge hedge, h⟩
      · cases h
  | outside accepts =>
      simp only [fit] at h
      split at h
      · cases h
      · rename_i hout
        exact ⟨s, .outside (by simpa using hout), h⟩

/-! ## The texts of a pattern -/

/-- Whether a pattern can cover exactly a text, apart from what stands around the text. -/
def Spells : Pattern → Text → Prop
  | empty, t => t = []
  | one accepts, t => ∃ c, t = [c] ∧ accepts c = true
  | seq p q, t => ∃ u v, t = u ++ v ∧ p.Spells u ∧ q.Spells v
  | either p q, t => p.Spells t ∨ q.Spells t
  | many accepts, t => ∀ c ∈ t, accepts c = true
  | group _ body, t => body.Spells t
  | edge, t => t = []
  | outside _, t => t = []

/-- Whether a group of a pattern can cover exactly a text. -/
def Captures : Pattern → Nat → Text → Prop
  | seq p q, n, t => p.Captures n t ∨ q.Captures n t
  | either p q, n, t => p.Captures n t ∨ q.Captures n t
  | group number body, n, t => number = n ∧ body.Spells t ∨ body.Captures n t
  | _, _, _ => False

/-- Between the ends of a walk stands a text that the pattern spells. -/
theorem Walk.spells {p : Pattern} {s s' : Place} (h : Walk p s s') :
    ∃ u, s.rest = u ++ s'.rest ∧ s'.position = s.position + u.length ∧ p.Spells u := by
  induction h with
  | empty => exact ⟨[], rfl, rfl, rfl⟩
  | one hrest hc => exact ⟨_, hrest, rfl, _, rfl, hc⟩
  | seq _ _ ihp ihq =>
      obtain ⟨u, hu, hpu, hsu⟩ := ihp
      obtain ⟨v, hv, hpv, hsv⟩ := ihq
      refine ⟨u ++ v, by rw [hu, hv, List.append_assoc], ?_, u, v, rfl, hsu, hsv⟩
      rw [hpv, hpu, List.length_append, Nat.add_assoc]
  | first _ ih =>
      obtain ⟨u, hu, hpu, hsu⟩ := ih
      exact ⟨u, hu, hpu, .inl hsu⟩
  | second _ ih =>
      obtain ⟨u, hu, hpu, hsu⟩ := ih
      exact ⟨u, hu, hpu, .inr hsu⟩
  | stay => exact ⟨[], rfl, rfl, by simp [Spells]⟩
  | @more accepts s s' c rest hrest hc _ ih =>
      obtain ⟨u, hu, hpu, hsu⟩ := ih
      refine ⟨c :: u, by rw [hrest, List.cons_append, ← hu]; rfl, ?_, ?_⟩
      · simp only [hpu, Place.advance, List.length_cons]
        omega
      · simp only [Spells] at hsu ⊢
        exact List.forall_mem_cons.2 ⟨hc, hsu⟩
  | group _ ih =>
      obtain ⟨u, hu, hpu, hsu⟩ := ih
      exact ⟨u, hu, hpu, hsu⟩
  | edge _ => exact ⟨[], rfl, rfl, rfl⟩
  | outside _ => exact ⟨[], rfl, rfl, rfl⟩

/-! ## Compound patterns -/

@[simp] theorem captures_append {p q : Pattern} {n : Nat} {t : Text} :
    (p ++ q).Captures n t ↔ p.Captures n t ∨ q.Captures n t := Iff.rfl

@[simp] theorem captures_group {number : Nat} {body : Pattern} {n : Nat} {t : Text} :
    (group number body).Captures n t ↔ number = n ∧ body.Spells t ∨ body.Captures n t := Iff.rfl

@[simp] theorem captures_literal (word : Text) (n : Nat) (t : Text) :
    ¬ (literal word).Captures n t := by
  fun_induction literal word with
  | case1 => simp [Captures]
  | case2 => simp [Captures]
  | case3 _ _ _ ih => simpa [Captures] using ih

@[simp] theorem captures_anyOf {ps : List Pattern} {n : Nat} {t : Text} :
    (anyOf ps).Captures n t ↔ ∃ p ∈ ps, p.Captures n t := by
  fun_induction anyOf ps with
  | case1 => simp [Captures]
  | case2 => simp
  | case3 _ _ _ ih => simp [Captures, ih]

@[simp] theorem captures_optional {p : Pattern} {n : Nat} {t : Text} :
    (Pattern.optional p).Captures n t ↔ p.Captures n t := by
  simp [Pattern.optional, Captures]

@[simp] theorem captures_repeated (accepts : Char → Bool) (n : Nat) (t : Text) :
    ¬ (repeated accepts).Captures n t := by
  simp [repeated, Captures]

@[simp] theorem spells_append {p q : Pattern} {t : Text} :
    (p ++ q).Spells t ↔ ∃ u v, t = u ++ v ∧ p.Spells u ∧ q.Spells v := Iff.rfl

@[simp] theorem spells_literal {word t : Text} : (literal word).Spells t ↔ t = word := by
  fun_induction literal word generalizing t with
  | case1 => simp [Spells]
  | case2 => simp [Spells]
  | case3 c rest _ ih => simp [Spells, ih]

@[simp] theorem spells_anyOf {ps : List Pattern} {t : Text} :
    (anyOf ps).Spells t ↔ ∃ p ∈ ps, p.Spells t := by
  fun_induction anyOf ps with
  | case1 => simp [Spells]
  | case2 => simp
  | case3 _ _ _ ih => simp [Spells, ih]

theorem spells_words (words : List String) {t : Text} :
    (anyOf (words.map fun word => literal word.toList)).Spells t ↔
      ∃ word ∈ words, t = word.toList := by
  simp

@[simp] theorem spells_optional {p : Pattern} {t : Text} :
    (Pattern.optional p).Spells t ↔ p.Spells t ∨ t = [] := Iff.rfl

@[simp] theorem spells_repeated {accepts : Char → Bool} {t : Text} :
    (repeated accepts).Spells t ↔ t ≠ [] ∧ ∀ c ∈ t, accepts c = true := by
  constructor
  · rintro ⟨u, v, rfl, ⟨c, rfl, hc⟩, hv⟩
    exact ⟨by simp, List.forall_mem_cons.2 ⟨hc, hv⟩⟩
  · rintro ⟨hne, h⟩
    obtain ⟨c, rest, rfl⟩ := List.exists_cons_of_ne_nil hne
    exact ⟨[c], rest, rfl, ⟨c, rfl, h c (by simp)⟩, fun d hd => h d (by simp [hd])⟩

end LotSearch.Pattern
