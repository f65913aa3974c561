import LotSearch.Text.Base64Url
import Mathlib

/-!
# Reading Base64 back

Octets are written in groups of six bits, with the characters of the alphabet only.  A reader finds
the same groups, since every group has a character of its own, and joins them to the same octets.
-/

namespace LotSearch

namespace Base64Url

/-- The groups of six bits of octets, the last one filled up with zeros. -/
def sextets : Octets → List Nat
  | a :: b :: c :: octets =>
      a / 4 :: (a % 4 * 16 + b / 16) :: (b % 16 * 4 + c / 64) :: c % 64 :: sextets octets
  | [a, b] => [a / 4, a % 4 * 16 + b / 16, b % 16 * 4]
  | [a] => [a / 4, a % 4 * 16]
  | [] => []

theorem encode_eq_map (octets : Octets) : encode octets = (sextets octets).map charOf := by
  induction octets using sextets.induct with
  | case1 a b c octets ih => simp [encode, sextets, ih]
  | case2 a b => rfl
  | case3 a => rfl
  | case4 => rfl

theorem lt_of_mem_sextets {octets : Octets} (h : ∀ b ∈ octets, b < 256) :
    ∀ v ∈ sextets octets, v < 64 := by
  induction octets using sextets.induct with
  | case1 a b c octets ih =>
      simp only [List.forall_mem_cons] at h
      obtain ⟨ha, hb, hc, hrest⟩ := h
      simp only [sextets, List.forall_mem_cons]
      exact ⟨by omega, by omega, by omega, by omega, ih hrest⟩
  | case2 a b =>
      simp only [List.forall_mem_cons] at h
      simp only [sextets, List.forall_mem_cons]
      exact ⟨by omega, by omega, by omega, by simp⟩
  | case3 a =>
      simp only [List.forall_mem_cons] at h
      simp only [sextets, List.forall_mem_cons]
      exact ⟨by omega, by omega, by simp⟩
  | case4 => simp [sextets]

theorem join?_sextets {octets : Octets} (h : ∀ b ∈ octets, b < 256) :
    join? (sextets octets) = some octets := by
  induction octets using sextets.induct with
  | case1 a b c octets ih =>
      simp only [List.forall_mem_cons] at h
      obtain ⟨ha, hb, hc, hrest⟩ := h
      have hfirst : a / 4 * 4 + (a % 4 * 16 + b / 16) / 16 = a := by omega
      have hsecond : (a % 4 * 16 + b / 16) % 16 * 16 + (b % 16 * 4 + c / 64) / 4 = b := by omega
      have hthird : (b % 16 * 4 + c / 64) % 4 * 64 + c % 64 = c := by omega
      simp only [sextets, join?, ih hrest, Option.map_some, hfirst, hsecond, hthird]
  | case2 a b =>
      simp only [List.forall_mem_cons] at h
      have hfirst : a / 4 * 4 + (a % 4 * 16 + b / 16) / 16 = a := by omega
      have hsecond : (a % 4 * 16 + b / 16) % 16 * 16 + b % 16 * 4 / 4 = b := by omega
      have hunused : b % 16 * 4 % 4 = 0 := by omega
      simp only [sextets, join?, hfirst, hsecond, hunused, if_true]
  | case3 a =>
      have hfirst : a / 4 * 4 + a % 4 * 16 / 16 = a := by omega
      have hunused : a % 4 * 16 % 16 = 0 := by omega
      simp only [sextets, join?, hfirst, hunused, if_true]
  | case4 => rfl

theorem values?_map_charOf {values : List Nat} (h : ∀ v ∈ values, v < 64) :
    values? (values.map charOf) = some values := by
  induction values with
  | nil => rfl
  | cons v values ih =>
      obtain ⟨hv, hvalues⟩ := List.forall_mem_cons.1 h
      simp [values?, valueOf?_charOf v hv, ih hvalues]

theorem decode?_encode {octets : Octets} (h : ∀ b ∈ octets, b < 256) :
    decode? (encode octets) = some octets := by
  rw [decode?, encode_eq_map, values?_map_charOf (lt_of_mem_sextets h)]
  exact join?_sextets h

/-- Whether a character is an ASCII letter, an ASCII digit, `-` or `_`. -/
def isUrlSafe (c : Char) : Bool := c.isAlphanum || c == '-' || c == '_'

theorem isUrlSafe_charOf (v : Nat) : isUrlSafe (charOf v) = true := by
  have hall : ∀ v < 64, isUrlSafe (charOf v) = true := by decide
  rcases Nat.lt_or_ge v 64 with hv | hv
  · exact hall v hv
  · rw [charOf, if_neg (by omega), if_neg (by omega), if_neg (by omega), if_neg (by omega)]
    decide

theorem isUrlSafe_of_mem_encode {octets : Octets} {c : Char} (h : c ∈ encode octets) :
    isUrlSafe c = true := by
  rw [encode_eq_map] at h
  obtain ⟨v, -, rfl⟩ := List.mem_map.1 h
  exact isUrlSafe_charOf v

end Base64Url

end LotSearch
