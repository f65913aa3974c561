import LotSearch.Proofs.Statement.Harmless
import LotSearch.Proofs.Text.Number

/-!
# Quiet texts

A quiet text holds no quote and no mark of a comment, and does not end in a hyphen.  Standing in
code it is code throughout, whatever follows it.  Quiet texts stay quiet when they are joined, and
written numbers are quiet.
-/

namespace LotSearch

namespace Statement

/-- A text that is code throughout, and leaves nothing to the text behind it. -/
structure Quiet (t : Text) : Prop where
  ne_nil : t ≠ []
  quote_notMem : '\'' ∉ t
  chain : t.IsChain NoMarker
  getLast? : t.getLast? ≠ some '-'

theorem regionAfter_of_chain_of_notMem {t : Text} (h : t.IsChain NoMarker) (hquote : '\'' ∉ t) :
    regionAfter .code t = .code := by
  induction t with
  | nil => rfl
  | cons c t ih =>
      obtain ⟨hnext, hchain⟩ := List.isChain_cons.1 h
      simp only [List.mem_cons, not_or] at hquote
      have hmarker : ¬ (c = '-' ∧ t.head? = some '-') := fun ⟨hc, hhead⟩ =>
        hnext '-' hhead hc rfl
      simpa [regionAfter, Ne.symm hquote.1, hmarker] using ih hchain hquote.2

namespace Quiet

theorem of_plain {t : Text} (hne : t ≠ []) (h : ∀ c ∈ t, c ≠ '\'' ∧ c ≠ '-') : Quiet t where
  ne_nil := hne
  quote_notMem hmem := (h _ hmem).1 rfl
  chain := by
    apply (List.isChain_isInfix t).imp_of_mem_imp
    intro a b ha _ _ hhyphen
    exact absurd hhyphen (h a ha).2
  getLast? hlast := (h _ (List.mem_of_getLast? hlast)).2 rfl

theorem append {s t : Text} (hs : Quiet s) (ht : Quiet t) : Quiet (s ++ t) where
  ne_nil hnil := hs.ne_nil (List.append_eq_nil_iff.1 hnil).1
  quote_notMem hmem := (List.mem_append.1 hmem).elim hs.quote_notMem ht.quote_notMem
  chain := by
    refine List.isChain_append.2 ⟨hs.chain, ht.chain, fun a ha b _ hhyphen => ?_⟩
    exact absurd (hhyphen ▸ ha) hs.getLast?
  getLast? := by
    obtain ⟨c, hc⟩ := Option.ne_none_iff_exists'.1 (mt List.getLast?_eq_none_iff.1 ht.ne_nil)
    simpa [List.getLast?_append, hc] using ht.getLast?

theorem cons_hyphen {t : Text} (ht : Quiet t) (hhead : t.head? ≠ some '-') :
    Quiet ('-' :: t) where
  ne_nil := List.cons_ne_nil _ _
  quote_notMem hmem := by
    rcases List.mem_cons.1 hmem with heq | hmem
    · exact absurd heq (by decide)
    · exact ht.quote_notMem hmem
  chain := List.isChain_cons.2 ⟨fun b hb _ hhyphen => hhead (hhyphen ▸ hb), ht.chain⟩
  getLast? := by
    obtain ⟨c, hc⟩ := Option.ne_none_iff_exists'.1 (mt List.getLast?_eq_none_iff.1 ht.ne_nil)
    simpa [List.getLast?_cons, hc] using ht.getLast?

theorem regionAfter_code {t : Text} (h : Quiet t) : regionAfter .code t = .code :=
  regionAfter_of_chain_of_notMem h.chain h.quote_notMem

end Quiet

end Statement

open Statement

/-! ## Numbers -/

theorem plain_of_mem_ofNat {n : Nat} {c : Char} (h : c ∈ Text.ofNat n) : c ≠ '\'' ∧ c ≠ '-' := by
  have hdigit := Text.isAsciiDigit_of_mem_ofNat h
  exact ⟨ne_of_class hdigit (by decide), ne_of_class hdigit (by decide)⟩

theorem Text.quiet_ofNat (n : Nat) : Quiet (Text.ofNat n) ∧ (Text.ofNat n).head? ≠ some '-' := by
  refine ⟨.of_plain (Text.ofNat_ne_nil n) fun _ hc => plain_of_mem_ofNat hc, fun hhead => ?_⟩
  exact (plain_of_mem_ofNat (List.mem_of_mem_head? hhead)).2 rfl

theorem Text.quiet_ofInt (n : Int) :
    Quiet (Text.ofInt n) ∧ ((Text.ofInt n).head? = some '-' ↔ n < 0) := by
  cases n with
  | ofNat n =>
      obtain ⟨hquiet, hhead⟩ := Text.quiet_ofNat n
      exact ⟨hquiet, iff_of_false hhead (by simp)⟩
  | negSucc n =>
      obtain ⟨hquiet, hhead⟩ := Text.quiet_ofNat (n + 1)
      exact ⟨hquiet.cons_hyphen hhead, iff_of_true rfl (Int.negSucc_lt_zero n)⟩

end LotSearch
