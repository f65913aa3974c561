import LotSearch.Proofs.Statement.Region
import Mathlib

/-!
# Harmless texts

A text is harmless in a statement when it closes the literals it opens and holds no mark that
begins a comment, an escape or another statement.  Harmless texts stay harmless when they are
joined, so a statement is harmless because its parts are.
-/

namespace LotSearch.Statement

def NoMarker (a b : Char) : Prop := a = '-' → b ≠ '-'

instance (a b : Char) : Decidable (NoMarker a b) := inferInstanceAs (Decidable (_ → _))

/-- Without two hyphens in a row only quotes change the region. -/
theorem regionAfter_of_chain {t : Text} {region : Region} (h : t.IsChain NoMarker)
    (hne : region ≠ .comment) : regionAfter region t ≠ .comment := by
  induction t generalizing region with
  | nil => simpa using hne
  | cons c t ih =>
      obtain ⟨hnext, hchain⟩ := List.isChain_cons.1 h
      cases region with
      | code =>
          have hmarker : ¬ (c = '-' ∧ t.head? = some '-') := fun ⟨hc, hhead⟩ =>
            hnext '-' hhead hc rfl
          simp only [regionAfter, Bool.and_eq_true, decide_eq_true_eq, hmarker, if_false]
          split_ifs
          · exact ih hchain (by simp)
          · exact ih hchain (by simp)
      | literal => exact ih hchain (by split_ifs <;> simp)
      | comment => exact absurd rfl hne

/-- Without two hyphens in a row the number of quotes alone decides whether a literal is open. -/
theorem regionAfter_code_iff_of_chain {t : Text} (h : t.IsChain NoMarker) :
    (regionAfter .code t = .code ↔ t.count '\'' % 2 = 0) ∧
      (regionAfter .literal t = .code ↔ t.count '\'' % 2 = 1) := by
  induction t with
  | nil => simp
  | cons c t ih =>
      obtain ⟨hnext, hchain⟩ := List.isChain_cons.1 h
      have hmarker : ¬ (c = '-' ∧ t.head? = some '-') := fun ⟨hc, hhead⟩ =>
        hnext '-' hhead hc rfl
      obtain ⟨hcode, hliteral⟩ := ih hchain
      by_cases hc : c = '\''
      · subst hc
        simp only [regionAfter, if_true, List.count_cons_self, hcode, hliteral]
        constructor <;> omega
      · simp only [regionAfter, Bool.and_eq_true, decide_eq_true_eq, hmarker, hc, if_false,
          List.count_cons_of_ne hc, hcode, hliteral, true_and]

/-- The characters that end a statement or a line, or escape the next character. -/
def breakingChars : Text := [';', '\\', '\n']

/-- A text with closed literals and without a mark for a comment, an escape or another statement.
It does not begin with a hyphen, so no text before it makes one either. -/
structure Harmless (t : Text) : Prop where
  quotes : t.count '\'' % 2 = 0
  notMem : ∀ c ∈ breakingChars, c ∉ t
  chain : t.IsChain NoMarker
  head? : t.head? ≠ some '-'

theorem harmless_iff {t : Text} : Harmless t ↔ t.count '\'' % 2 = 0 ∧
    (breakingChars.all fun c => !t.contains c) = true ∧ t.IsChain NoMarker ∧
      t.head? ≠ some '-' := by
  constructor
  · intro h
    exact ⟨h.quotes, by simpa using h.notMem, h.chain, h.head?⟩
  · rintro ⟨hquotes, hnotMem, hchain, hhead⟩
    exact ⟨hquotes, by simpa using hnotMem, hchain, hhead⟩

instance (t : Text) : Decidable (Harmless t) := decidable_of_iff _ harmless_iff.symm

namespace Harmless

theorem nil : Harmless [] := by decide

theorem append {s t : Text} (hs : Harmless s) (ht : Harmless t) : Harmless (s ++ t) where
  quotes := by
    have hsum := hs.quotes
    have hsum' := ht.quotes
    rw [List.count_append]
    omega
  notMem c hc hmem := (List.mem_append.1 hmem).elim (hs.notMem c hc) (ht.notMem c hc)
  chain := by
    refine List.isChain_append.2 ⟨hs.chain, ht.chain, fun a _ b hb _ hhyphen => ?_⟩
    exact ht.head? (hhyphen ▸ hb)
  head? := by
    rw [List.head?_append]
    cases hhead : s.head? with
    | none => exact ht.head?
    | some c =>
        intro hc
        exact hs.head? (hhead.trans hc)

theorem of_plain {t : Text} (h : ∀ c ∈ t, c ∉ '\'' :: '-' :: breakingChars) : Harmless t where
  quotes := by
    rw [List.count_eq_zero.2 fun hmem => h _ hmem (by simp)]
  notMem c hc hmem := h c hmem (by simp [hc])
  chain := by
    apply (List.isChain_isInfix t).imp_of_mem_imp
    intro a b ha _ _ hhyphen
    exact (h a ha (by simp [hhyphen])).elim
  head? hhead := h _ (List.mem_of_mem_head? hhead) (by simp)

/-- One hyphen may stand between harmless texts, behind a character that is none. -/
theorem append_hyphen {s t : Text} {c : Char} (hs : Harmless (s ++ [c])) (hc : c ≠ '-')
    (ht : Harmless t) : Harmless (s ++ [c] ++ '-' :: t) where
  quotes := by
    have hsum := hs.quotes
    have hsum' := ht.quotes
    rw [List.count_append, List.count_cons_of_ne (by decide)]
    omega
  notMem d hd hmem := by
    rcases List.mem_append.1 hmem with hleft | hright
    · exact hs.notMem d hd hleft
    · rcases List.mem_cons.1 hright with rfl | hlast
      · exact absurd hd (by decide)
      · exact ht.notMem d hd hlast
  chain := by
    refine List.isChain_append.2 ⟨hs.chain, ?_, fun a ha b _ hhyphen => ?_⟩
    · exact List.isChain_cons.2 ⟨fun b hb _ hhyphen => ht.head? (hhyphen ▸ hb), ht.chain⟩
    · simp only [List.getLast?_append, List.getLast?_singleton, Option.some_or,
        Option.mem_some_iff] at ha
      exact absurd (ha.trans hhyphen) hc
  head? := by
    have hhead := hs.head?
    cases s with
    | nil => simpa using hc
    | cons d s => simpa using hhead

/-- A harmless text may also be put into a harmless one, in front of no hyphen. -/
theorem insert {before inside after : Text} (h : Harmless (before ++ after))
    (hinside : Harmless inside) (hafter : after.head? ≠ some '-') :
    Harmless (before ++ inside ++ after) where
  quotes := by
    have hsum := h.quotes
    have hsum' := hinside.quotes
    simp only [List.count_append] at hsum ⊢
    omega
  notMem c hc hmem := by
    have houter := h.notMem c hc
    simp only [List.mem_append, not_or] at hmem houter
    rcases hmem with (hbefore | hmid) | hlast
    · exact houter.1 hbefore
    · exact hinside.notMem c hc hmid
    · exact houter.2 hlast
  chain := by
    obtain ⟨hbefore, hlast, _⟩ := List.isChain_append.1 h.chain
    have hleft : (before ++ inside).IsChain NoMarker :=
      List.isChain_append.2 ⟨hbefore, hinside.chain, fun a _ b hb _ hhyphen =>
        hinside.head? (hhyphen ▸ hb)⟩
    exact List.isChain_append.2 ⟨hleft, hlast, fun a _ b hb _ hhyphen => hafter (hhyphen ▸ hb)⟩
  head? := by
    have hhead := h.head?
    have hhead' := hinside.head?
    cases before with
    | nil =>
        cases inside with
        | nil => simpa using hafter
        | cons c inside => simpa using hhead'
    | cons c before => simpa using hhead

theorem join {sep : Text} (hsep : Harmless sep) {pieces : List Text}
    (h : ∀ t ∈ pieces, Harmless t) : Harmless (Text.join sep pieces) := by
  induction pieces with
  | nil => exact nil
  | cons piece pieces ih =>
      obtain ⟨hpiece, hpieces⟩ := List.forall_mem_cons.1 h
      cases pieces with
      | nil => exact hpiece
      | cons next pieces =>
          rw [Text.join_cons_cons]
          exact (hpiece.append hsep).append (ih hpieces)

theorem not_isInfix {t : Text} (h : Harmless t) : ¬ "--".toList <:+: t := by
  intro hpart
  have hmarker : ¬ "--".toList.IsChain NoMarker := by decide
  exact hmarker ( List.IsChain.infix h.chain hpart)

theorem regionAfter_ne_comment {t : Text} (h : Harmless t) : regionAfter .code t ≠ .comment :=
  regionAfter_of_chain h.chain (by simp)

/-- A harmless text that stands in code leaves code behind it. -/
theorem regionAfter_code {t : Text} (h : Harmless t) : regionAfter .code t = .code :=
  (regionAfter_code_iff_of_chain h.chain).1.2 h.quotes

end Harmless

end LotSearch.Statement
