import LotSearch.Text.Basic
import Mathlib

/-!
# Places at which a text occurs

A text stands aside of `p` when no occurrence of `p` begins in it, whatever comes behind.  Such
texts can be put together, so the places at which `p` occurs in a long text are found from its
parts.
-/

namespace LotSearch.Text

/-- Whether `p` occurs at exactly one place of a text. -/
def OccursOnce (p t : Text) : Prop := ∃! before, before ++ p <+: t

def Aside (p : Text) : Text → Prop
  | [] => True
  | c :: t => (∀ rest, ¬ p <+: c :: (t ++ rest)) ∧ Aside p t

/-- At no place the text there begins with `p`, or `p` with it. -/
def asideOf (p : Text) : Text → Bool
  | [] => true
  | c :: t => !p.isPrefixOf (c :: t) && !(c :: t).isPrefixOf p && asideOf p t

namespace Aside

variable {p s t : Text}

theorem append (hs : Aside p s) (ht : Aside p t) : Aside p (s ++ t) := by
  induction s with
  | nil => exact ht
  | cons c s ih =>
      refine ⟨fun rest hprefix => hs.1 (t ++ rest) ?_, ih hs.2⟩
      rwa [← List.append_assoc]

theorem flatMap {pieces : List Text} {f : Text → Text} (h : ∀ piece ∈ pieces, Aside p (f piece)) :
    Aside p (pieces.flatMap f) := by
  induction pieces with
  | nil => trivial
  | cons piece pieces ih =>
      obtain ⟨hpiece, hpieces⟩ := List.forall_mem_cons.1 h
      rw [List.flatMap_cons]
      exact hpiece.append (ih hpieces)

theorem join {sep : Text} (hsep : Aside p sep) {pieces : List Text}
    (h : ∀ piece ∈ pieces, Aside p piece) : Aside p (Text.join sep pieces) := by
  induction pieces with
  | nil => trivial
  | cons piece pieces ih =>
      obtain ⟨hpiece, hpieces⟩ := List.forall_mem_cons.1 h
      cases pieces with
      | nil => exact hpiece
      | cons next pieces =>
          rw [join_cons_cons]
          exact (hpiece.append hsep).append (ih hpieces)

theorem of_notMem {c : Char} {q : Text} (h : c ∉ t) : Aside (c :: q) t := by
  induction t with
  | nil => trivial
  | cons d t ih =>
      rw [List.mem_cons, not_or] at h
      refine ⟨fun rest hprefix => ?_, ih h.2⟩
      exact h.1 (List.cons_prefix_cons.1 hprefix).1

theorem of_asideOf (h : asideOf p t = true) : Aside p t := by
  induction t with
  | nil => trivial
  | cons c t ih =>
      simp only [asideOf, Bool.and_eq_true, Bool.not_eq_true', ← Bool.not_eq_true,
        List.isPrefixOf_iff_prefix] at h
      refine ⟨fun rest hprefix => ?_, ih h.2⟩
      have hwhole : c :: t <+: c :: (t ++ rest) := List.prefix_append (c :: t) rest
      rcases List.prefix_or_prefix_of_prefix hprefix hwhole with hshort | hlong
      · exact h.1.1 hshort
      · exact h.1.2 hlong

theorem extend (h : Aside p t) (q : Text) : Aside (p ++ q) t := by
  induction t with
  | nil => trivial
  | cons c t ih =>
      exact ⟨fun rest hprefix => h.1 rest ((List.prefix_append p q).trans hprefix), ih h.2⟩

/-- An occurrence begins behind a text that stands aside. -/
theorem exists_append {before rest : Text} (h : Aside p t) (hp : before ++ p <+: t ++ rest) :
    ∃ behind, before = t ++ behind ∧ behind ++ p <+: rest := by
  induction t generalizing before with
  | nil => exact ⟨before, rfl, hp⟩
  | cons c t ih =>
      cases before with
      | nil => exact absurd hp (h.1 rest)
      | cons d before =>
          obtain ⟨rfl, hlater⟩ := List.cons_prefix_cons.1 hp
          obtain ⟨behind, rfl, hbehind⟩ := ih h.2 hlater
          exact ⟨behind, rfl, hbehind⟩

end Aside

/-- Between texts that stand aside there is one place where `p` can occur. -/
theorem occursOnce_iff {p before after : Text} {c : Char} (hbefore : Aside p before)
    (hafter : Aside p after) (hp : p ≠ []) :
    OccursOnce p (before ++ c :: after) ↔ p <+: c :: after := by
  have hplace : ∀ place, place ++ p <+: before ++ c :: after → place = before := by
    intro place h
    obtain ⟨behind, rfl, hbehind⟩ := hbefore.exists_append h
    cases behind with
    | nil => exact List.append_nil before
    | cons d behind =>
        obtain ⟨-, hlater⟩ := List.cons_prefix_cons.1 hbehind
        rw [← List.append_nil after] at hlater
        obtain ⟨last, -, hlast⟩ := hafter.exists_append hlater
        simp [hp] at hlast
  have hat : before ++ p <+: before ++ c :: after ↔ p <+: c :: after :=
    List.prefix_append_right_inj before
  constructor
  · rintro ⟨place, h, -⟩
    obtain rfl := hplace place h
    exact hat.1 h
  · intro h
    exact ⟨before, hat.2 h, hplace⟩

/-! ## Occurrences in joined texts -/

/-- A text that occurs in two others joined by a character of its own occurs in one of them. -/
theorem occurs_of_append_cons {p u v before after : Text} {c : Char} (hc : c ∉ p)
    (h : u ++ c :: v = before ++ p ++ after) :
    (∃ y, u = before ++ p ++ y ∧ after = y ++ c :: v) ∨ ∃ x, v = x ++ p ++ after := by
  rcases List.append_eq_append_iff.1 h with ⟨m, hm, hafter⟩ | ⟨m, hu, hafter⟩
  · cases m with
    | nil => exact .inl ⟨[], by simpa using hm.symm, hafter.symm⟩
    | cons d m =>
        obtain ⟨rfl, rfl⟩ := List.cons.inj hafter
        rcases List.append_eq_append_iff.1 hm with ⟨k, rfl, hp⟩ | ⟨k, rfl, hp⟩
        · exact absurd (hp ▸ List.mem_append_right k List.mem_cons_self) hc
        · cases k with
          | nil => exact absurd (List.mem_of_mem_head? (congrArg List.head? hp).symm) hc
          | cons d k =>
              obtain ⟨rfl, rfl⟩ := List.cons.inj hp
              exact .inr ⟨k, rfl⟩
  · exact .inl ⟨m, hu, hafter⟩

theorem occurs_behind {p u v before after : Text} {c : Char} (hc : c ∉ p) (hu : ¬ p <:+: u)
    (h : u ++ c :: v = before ++ p ++ after) : ∃ x, v = x ++ p ++ after := by
  rcases occurs_of_append_cons hc h with ⟨y, rfl, -⟩ | hv
  · exact absurd ⟨before, y, rfl⟩ hu
  · exact hv

theorem not_occurs_append_cons {p u v : Text} {c : Char} (hc : c ∉ p) (hu : ¬ p <:+: u)
    (hv : ¬ p <:+: v) : ¬ p <:+: u ++ c :: v := by
  rintro ⟨before, after, h⟩
  obtain ⟨x, rfl⟩ := occurs_behind hc hu h.symm
  exact hv ⟨x, after, rfl⟩

/-! ## First occurrences -/

theorem breakAt?_of_after? {p t r : Text} (h : after? p t = some r) :
    breakAt? p t = some ([], r) := by
  cases t <;> simp [breakAt?, h]

theorem breakAt?_cons {p t : Text} {c : Char} (h : ¬ p <+: c :: t) :
    breakAt? p (c :: t) = (breakAt? p t).map fun (before, r) => (c :: before, r) := by
  cases hafter : after? p (c :: t) with
  | none => simp [breakAt?, hafter]
  | some r => exact absurd ⟨r, (after?_eq_some_iff.1 hafter).symm⟩ h

/-- A text that does not overlap itself is found behind a text that does not hold it. -/
theorem breakAt?_append {p before : Text} (hp : ∀ u ∈ p.inits, u ≠ [] → p <+: u ++ p → u = p)
    (hbefore : ¬ p <:+: before) (rest : Text) :
    breakAt? p (before ++ (p ++ rest)) = some (before, rest) := by
  induction before with
  | nil => exact breakAt?_of_after? (after?_eq_some_iff.2 rfl)
  | cons c before ih =>
      have hlater : ¬ p <:+: before := fun h => hbefore (List.infix_cons h)
      have hnone : ¬ p <+: (c :: before) ++ (p ++ rest) := by
        intro hprefix
        rcases List.prefix_or_prefix_of_prefix hprefix (List.prefix_append _ _) with hshort | hlong
        · exact hbefore hshort.isInfix
        · have hover : p <+: (c :: before) ++ p := by
            refine List.prefix_of_prefix_length_le hprefix ?_ ?_
            · rw [← List.append_assoc]
              exact List.prefix_append _ _
            · simp only [List.length_append, List.length_cons]
              omega
          have heq := hp _ ((List.mem_inits _ _).2 hlong) (List.cons_ne_nil _ _) hover
          exact hbefore ⟨[], [], by simp [heq]⟩
      rw [List.cons_append] at hnone ⊢
      rw [breakAt?_cons hnone, ih hlater]
      rfl

theorem not_prefix_append_cons {p u : Text} {c : Char} (hc : c ∉ p) (hu : ¬ p <+: u) (v : Text) :
    ¬ p <+: u ++ c :: v := by
  intro hprefix
  have hfirst : u ++ [c] <+: u ++ c :: v := ⟨v, by simp⟩
  rcases List.prefix_or_prefix_of_prefix hprefix hfirst with hshort | hlong
  · rcases List.prefix_concat_iff.1 hshort with rfl | hbefore
    · simp at hc
    · exact hu hbefore
  · exact hc (hlong.subset (by simp))

/-- Up to a character of its own a text is looked for in what stands before that character. -/
theorem breakAt?_append_cons {p u : Text} {c : Char} (hc : c ∉ p) (hp : p ≠ [])
    (hu : ¬ p <:+: u) (v : Text) :
    breakAt? p (u ++ c :: v) = (breakAt? p v).map fun (before, r) => (u ++ c :: before, r) := by
  induction u with
  | nil =>
      have hnone := not_prefix_append_cons hc (by simpa using hp : ¬ p <+: []) v
      rw [List.nil_append] at hnone ⊢
      exact breakAt?_cons hnone
  | cons d u ih =>
      have hnone := not_prefix_append_cons hc (fun h => hu h.isInfix : ¬ p <+: d :: u) v
      have hlater : ¬ p <:+: u := fun h => hu (List.infix_cons h)
      rw [List.cons_append] at hnone ⊢
      rw [breakAt?_cons hnone, ih hlater, Option.map_map]
      rfl

end LotSearch.Text
