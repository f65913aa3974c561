import LotSearch.Json.Printer
import LotSearch.Json.Reader
import Mathlib

/-!
# Quoted texts

Between quotes a character stands for itself or is escaped, by a letter or by one or two units of
four hexadecimal digits, so a text may be written in many ways.  However it is written, the inside
of the quotes is found again up to the closing quote, and it stands for the same text.
-/

namespace LotSearch.Json

/-! ## Insides of quotes -/

/-- A text without a quote that would close it: each quote stands behind a backslash, and so does
each backslash that is not one itself. -/
inductive Inside : Text → Prop
  | nil : Inside []
  | escaped {u : Text} (c : Char) (h : Inside u) : Inside ('\\' :: c :: u)
  | plain {c : Char} {u : Text} (hquote : c ≠ '"') (hescape : c ≠ '\\') (h : Inside u) :
      Inside (c :: u)

theorem Inside.append_of_plain {u v : Text} (hu : ∀ c ∈ u, c ≠ '"' ∧ c ≠ '\\') (hv : Inside v) :
    Inside (u ++ v) := by
  induction u with
  | nil => exact hv
  | cons c u ih =>
      obtain ⟨⟨hquote, hescape⟩, hu⟩ := List.forall_mem_cons.1 hu
      exact .plain hquote hescape (ih hu)

theorem inside_of_splitQuoted {t u rest : Text} (h : splitQuoted t = some (u, rest)) :
    Inside u ∧ t = u ++ '"' :: rest := by
  induction t using splitQuoted.induct generalizing u with
  | case1 => cases h
  | case2 => cases h
  | case3 c t ih =>
      obtain ⟨⟨v, r⟩, hv, heq⟩ := Option.map_eq_some_iff.1 h
      cases heq
      obtain ⟨hinside, rfl⟩ := ih hv
      exact ⟨.escaped c hinside, rfl⟩
  | case4 t h₁ h₂ =>
      rw [splitQuoted, if_pos rfl] at h
      · cases h
        exact ⟨.nil, rfl⟩
      · exact h₁
      · exact h₂
  | case5 c t h₁ h₂ hquote ih =>
      rw [splitQuoted, if_neg hquote] at h
      · obtain ⟨⟨v, r⟩, hv, heq⟩ := Option.map_eq_some_iff.1 h
        cases heq
        obtain ⟨hinside, rfl⟩ := ih hv
        refine ⟨.plain hquote ?_ hinside, rfl⟩
        rintro rfl
        cases v with
        | nil => exact h₂ _ _ rfl rfl
        | cons d v => exact h₂ _ _ rfl rfl
      · exact h₁
      · exact h₂

theorem Inside.splitQuoted_append {u : Text} (h : Inside u) (rest : Text) :
    splitQuoted (u ++ '"' :: rest) = some (u, rest) := by
  induction h with
  | nil => simp [splitQuoted]
  | escaped c _ ih =>
      rw [List.cons_append, List.cons_append, splitQuoted, ih]
      rfl
  | plain hquote hescape _ ih =>
      rw [List.cons_append, splitQuoted, if_neg hquote, ih]
      · rfl
      · exact fun heq => absurd heq hescape
      · exact fun _ _ heq => absurd heq hescape

theorem splitQuoted_eq_some_iff {t u rest : Text} :
    splitQuoted t = some (u, rest) ↔ Inside u ∧ t = u ++ '"' :: rest := by
  refine ⟨inside_of_splitQuoted, ?_⟩
  rintro ⟨hinside, rfl⟩
  exact hinside.splitQuoted_append rest

theorem splitQuoted_append {t u rest : Text} (h : splitQuoted t = some (u, rest)) (more : Text) :
    splitQuoted (t ++ more) = some (u, rest ++ more) := by
  obtain ⟨hinside, rfl⟩ := splitQuoted_eq_some_iff.1 h
  exact splitQuoted_eq_some_iff.2 ⟨hinside, by simp⟩

/-! ## Ways to write a text -/

/-- What stands behind a backslash for a character. -/
def letterEscapes : List (Char × Char) :=
  [('"', '"'), ('\\', '\\'), ('/', '/'), ('b', '\x08'), ('f', '\x0C'), ('n', '\n'), ('r', '\r'),
    ('t', '\t')]

/-- A hexadecimal digit of a value, in either case. -/
def IsHexDigit (c : Char) (value : Nat) : Prop :=
  value < 16 ∧ (c = Nat.digitChar value ∨ c = (Nat.digitChar value).toUpper)

def IsUnit (a b c d : Char) (value : Nat) : Prop :=
  ∃ i j k l, IsHexDigit a i ∧ IsHexDigit b j ∧ IsHexDigit c k ∧ IsHexDigit d l ∧
    value = ((i * 16 + j) * 16 + k) * 16 + l

/-- The ways to write a character between quotes. -/
inductive WritesChar (x : Char) : Text → Prop
  | plain (hcontrol : 0x20 ≤ x.toNat) (hquote : x ≠ '"') (hescape : x ≠ '\\') : WritesChar x [x]
  | letter {e : Char} (h : (e, x) ∈ letterEscapes) : WritesChar x ['\\', e]
  | unit {a b c d : Char} (h : IsUnit a b c d x.toNat) : WritesChar x ['\\', 'u', a, b, c, d]
  | pair {a b c d e f g h : Char} {high low : Nat} (hhigh : IsUnit a b c d high)
      (hhigh_bounds : 0xD800 ≤ high ∧ high ≤ 0xDBFF) (hlow : IsUnit e f g h low)
      (hlow_bounds : 0xDC00 ≤ low ∧ low ≤ 0xDFFF)
      (hx : x.toNat = 0x10000 + (high - 0xD800) * 0x400 + (low - 0xDC00)) :
      WritesChar x ['\\', 'u', a, b, c, d, '\\', 'u', e, f, g, h]

/-- The ways to write a text between quotes. -/
inductive Writes : Text → Text → Prop
  | nil : Writes [] []
  | cons {x : Char} {t u v : Text} (hx : WritesChar x u) (ht : Writes t v) :
      Writes (x :: t) (u ++ v)

/-! ## Characters -/

theorem simpleEscape?_of_mem {e x : Char} (h : (e, x) ∈ letterEscapes) :
    simpleEscape? e = some x := by
  have hall : ∀ escape ∈ letterEscapes, simpleEscape? escape.1 = some escape.2 := by decide
  exact hall _ h

theorem IsHexDigit.hexValue?_eq {c : Char} {value : Nat} (h : IsHexDigit c value) :
    hexValue? c = some value := by
  obtain ⟨hlt, rfl | rfl⟩ := h
  · interval_cases value <;> rfl
  · interval_cases value <;> rfl

theorem IsUnit.hexUnit?_eq {a b c d : Char} {value : Nat} (h : IsUnit a b c d value) :
    hexUnit? a b c d = some value := by
  obtain ⟨i, j, k, l, ha, hb, hc, hd, rfl⟩ := h
  simp [hexUnit?, ha.hexValue?_eq, hb.hexValue?_eq, hc.hexValue?_eq, hd.hexValue?_eq]

theorem ne_of_hexValue? {a d : Char} {n : Nat} (ha : hexValue? a = some n)
    (hd : hexValue? d = none) : a ≠ d := by
  rintro rfl
  rw [ha] at hd
  cases hd

theorem IsUnit.exists_hexValue? {a b c d : Char} {value : Nat} (h : IsUnit a b c d value) :
    ∀ x ∈ [a, b, c, d], ∃ v, hexValue? x = some v := by
  obtain ⟨i, j, k, l, ha, hb, hc, hd, -⟩ := h
  simp [ha.hexValue?_eq, hb.hexValue?_eq, hc.hexValue?_eq, hd.hexValue?_eq]

theorem IsUnit.inside_append {a b c d : Char} {value : Nat} (h : IsUnit a b c d value)
    {v : Text} (hv : Inside v) : Inside ('\\' :: 'u' :: a :: b :: c :: d :: v) := by
  refine .escaped 'u' (Inside.append_of_plain (u := [a, b, c, d]) (fun x hx => ?_) hv)
  obtain ⟨n, hn⟩ := h.exists_hexValue? x hx
  exact ⟨ne_of_hexValue? hn (by decide), ne_of_hexValue? hn (by decide)⟩

namespace WritesChar

variable {x : Char} {u : Text}

theorem inside_append (h : WritesChar x u) {v : Text} (hv : Inside v) : Inside (u ++ v) := by
  cases h with
  | plain _ hquote hescape => exact .plain hquote hescape hv
  | letter _ => exact .escaped _ hv
  | unit h => exact h.inside_append hv
  | pair hhigh _ hlow _ _ => exact hhigh.inside_append (hlow.inside_append hv)

theorem unescape?_append (h : WritesChar x u) (rest : Text) :
    unescape? (u ++ rest) = (unescape? rest).map (x :: ·) := by
  cases h with
  | plain hcontrol _ hescape =>
      rw [List.cons_append, List.nil_append, unescape?, if_neg]
      · simp only [Bool.or_eq_true, decide_eq_true_eq, not_or]
        exact ⟨by omega, hescape⟩
      · rintro a b c d t rfl
        exact absurd rfl hescape
      · rintro c t rfl
        exact absurd rfl hescape
  | @letter e h =>
      have hletter := simpleEscape?_of_mem h
      have hunit : e ≠ 'u' := by
        rintro rfl
        cases hletter
      simp [unescape?, hletter, hunit]
  | @unit a b c d h =>
      have hvalid : x.toNat < 0xD800 ∨ 0xDFFF < x.toNat ∧ x.toNat < 0x110000 := x.valid
      have hlow : ¬ (0xDC00 ≤ x.toNat ∧ x.toNat ≤ 0xDFFF) := by omega
      have hhigh : ¬ (0xD800 ≤ x.toNat ∧ x.toNat ≤ 0xDBFF) := by omega
      simp [unescape?, h.hexUnit?_eq, hlow, hhigh, Char.ofNat_toNat]
  | @pair a b c d e f g h high low hhigh hhigh_bounds hlow hlow_bounds hx =>
      have hnot_low : ¬ (0xDC00 ≤ high ∧ high ≤ 0xDFFF) := by omega
      have hchar : ofSurrogates high low = x := by rw [ofSurrogates, ← hx, Char.ofNat_toNat]
      simp [unescape?, hhigh.hexUnit?_eq, hlow.hexUnit?_eq, hhigh_bounds, hlow_bounds, hnot_low,
        hchar]

theorem wellEscaped_append (h : WritesChar x u) (rest : Text) :
    wellEscaped (u ++ rest) = wellEscaped rest := by
  cases h with
  | plain hcontrol _ hescape =>
      rw [List.cons_append, List.nil_append, wellEscaped]
      · simp [Nat.not_lt.2 hcontrol, hescape]
      · rintro a b c d t rfl
        exact absurd rfl hescape
      · rintro c t rfl
        exact absurd rfl hescape
  | @letter e h =>
      have hletter := simpleEscape?_of_mem h
      have hunit : e ≠ 'u' := by
        rintro rfl
        cases hletter
      simp [wellEscaped, hletter, hunit]
  | unit h => simp [wellEscaped, h.hexUnit?_eq]
  | pair hhigh _ hlow _ _ => simp [wellEscaped, hhigh.hexUnit?_eq, hlow.hexUnit?_eq]

theorem head?_eq (h : WritesChar x u) : u.head? = some x ∨ u.head? = some '\\' := by
  cases h with
  | plain _ _ _ => exact .inl rfl
  | letter _ => exact .inr rfl
  | unit _ => exact .inr rfl
  | pair _ _ _ _ _ => exact .inr rfl

end WritesChar

/-! ## Texts -/

namespace Writes

variable {t u : Text}

theorem inside (h : Writes t u) : Inside u := by
  induction h with
  | nil => exact .nil
  | cons hx _ ih => exact hx.inside_append ih

theorem unescape?_eq (h : Writes t u) : unescape? u = some t := by
  induction h with
  | nil => simp [unescape?]
  | cons hx _ ih =>
      rw [hx.unescape?_append, ih]
      rfl

theorem wellEscaped_eq (h : Writes t u) : wellEscaped u = true := by
  induction h with
  | nil => simp [wellEscaped]
  | cons hx _ ih => rw [hx.wellEscaped_append, ih]

theorem skipQuoted_append (h : Writes t u) (rest : Text) :
    skipQuoted (u ++ '"' :: rest) = .ok ((), rest) := by
  simp [skipQuoted, h.inside.splitQuoted_append, h.wellEscaped_eq]

theorem readQuoted_append (h : Writes t u) (rest : Text) :
    readQuoted (u ++ '"' :: rest) = .ok (t, rest) := by
  simp [readQuoted, h.inside.splitQuoted_append, h.unescape?_eq]

theorem head?_eq {x : Char} (h : Writes (x :: t) u) :
    u.head? = some x ∨ u.head? = some '\\' := by
  cases h with
  | cons hx _ =>
      rcases hx.head?_eq with hhead | hhead
      · exact .inl (by rw [List.head?_append, hhead]; rfl)
      · exact .inr (by rw [List.head?_append, hhead]; rfl)

end Writes

/-! ## Characters outside escapes -/

/-- A character that is no part of an escape. -/
def IsBare (c : Char) : Prop :=
  c ≠ '\\' ∧ c ≠ 'u' ∧ hexValue? c = none ∧ simpleEscape? c = none

instance (c : Char) : Decidable (IsBare c) :=
  inferInstanceAs (Decidable (c ≠ '\\' ∧ c ≠ 'u' ∧ hexValue? c = none ∧ simpleEscape? c = none))

theorem IsBare.notMem_unit {y a b c d : Char} {value : Nat} (hy : IsBare y)
    (h : IsUnit a b c d value) : y ∉ ['\\', 'u', a, b, c, d] := by
  obtain ⟨hescape, hunit, hhex, -⟩ := hy
  have hdigits : ∀ x ∈ [a, b, c, d], x ≠ y := by
    intro x hx
    obtain ⟨v, hv⟩ := h.exists_hexValue? x hx
    exact ne_of_hexValue? hv hhex
  intro hmem
  rcases List.mem_cons.1 hmem with rfl | hmem
  · exact hescape rfl
  rcases List.mem_cons.1 hmem with rfl | hmem
  · exact hunit rfl
  · exact hdigits y hmem rfl

theorem WritesChar.eq_of_mem {x y : Char} {u : Text} (h : WritesChar x u) (hy : IsBare y)
    (hmem : y ∈ u) : y = x ∧ u = [x] := by
  cases h with
  | plain _ _ _ => exact ⟨List.mem_singleton.1 hmem, rfl⟩
  | @letter e h =>
      obtain ⟨hescape, -, -, hletter⟩ := hy
      simp only [List.mem_cons, List.not_mem_nil, or_false] at hmem
      rcases hmem with rfl | rfl
      · exact absurd rfl hescape
      · rw [simpleEscape?_of_mem h] at hletter
        cases hletter
  | unit h => exact absurd hmem (hy.notMem_unit h)
  | pair hhigh _ hlow _ _ =>
      have hunits : y ∈ ['\\', 'u', _, _, _, _] ++ ['\\', 'u', _, _, _, _] := hmem
      rcases List.mem_append.1 hunits with hmem | hmem
      · exact absurd hmem (hy.notMem_unit hhigh)
      · exact absurd hmem (hy.notMem_unit hlow)

namespace Writes

variable {t : Text} {y : Char}

theorem mem_of_mem {u : Text} (h : Writes t u) (hy : IsBare y) (hmem : y ∈ u) : y ∈ t := by
  induction h with
  | nil => exact hmem
  | cons hx _ ih =>
      rcases List.mem_append.1 hmem with hmem | hmem
      · exact List.mem_cons.2 (.inl (hx.eq_of_mem hy hmem).1)
      · exact List.mem_cons_of_mem _ (ih hmem)

/-- What follows a bare character is the inside of a quoted text again. -/
theorem exists_of_append {before after : Text} (h : Writes t (before ++ y :: after))
    (hy : IsBare y) : ∃ t', Writes t' after := by
  generalize htext : before ++ y :: after = w at h
  induction h generalizing before with
  | nil => simp at htext
  | @cons x t u v hx ht ih =>
      rcases List.append_eq_append_iff.1 htext with ⟨m, rfl, hm⟩ | ⟨m, rfl, hm⟩
      · cases m with
        | nil =>
            have hv : [] ++ y :: after = v := hm
            exact ih hv
        | cons d m =>
            obtain ⟨rfl, rfl⟩ := List.cons.inj hm
            obtain ⟨-, hsingle⟩ := hx.eq_of_mem hy (by simp)
            obtain ⟨rfl, -, rfl⟩ : before = [] ∧ y = x ∧ m = [] := by
              cases before with
              | nil => simpa using hsingle
              | cons d before => simp at hsingle
            exact ⟨t, ht⟩
      · exact ih hm.symm

end Writes

/-! ## What is printed -/

theorem isHexDigit_hexDigit {value : Nat} (h : value < 16) : IsHexDigit (hexDigit value) value := by
  refine ⟨h, .inl ?_⟩
  interval_cases value <;> rfl

theorem writesChar_escapeChar (c : Char) : WritesChar c (escapeChar c) := by
  unfold escapeChar
  split_ifs with hquote hescape h8 hC hn hr ht hcontrol
  · exact .letter (by rw [hquote]; decide)
  · exact .letter (by rw [hescape]; decide)
  · exact .letter (by rw [h8]; decide)
  · exact .letter (by rw [hC]; decide)
  · exact .letter (by rw [hn]; decide)
  · exact .letter (by rw [hr]; decide)
  · exact .letter (by rw [ht]; decide)
  · have hzero : IsHexDigit '0' 0 := isHexDigit_hexDigit (by omega)
    exact .unit ⟨0, 0, c.toNat / 16, c.toNat % 16, hzero, hzero, isHexDigit_hexDigit (by omega),
      isHexDigit_hexDigit (by omega), by omega⟩
  · exact .plain (by omega) hquote hescape

/-- The printer writes a text in one of the ways in which it may be written. -/
theorem writes_escape (t : Text) : Writes t (escape t) := by
  induction t with
  | nil => exact .nil
  | cons c t ih => exact .cons (writesChar_escapeChar c) ih

end LotSearch.Json
