import LotSearch.Text.Utf8
import Mathlib

/-!
# The order of names in octets

Names are ordered by code point.  UTF-8 keeps that order: of two texts the one that comes first has
the octets that come first.
-/

namespace LotSearch

namespace Utf8

/-- The octets of a character come before those of a character with a greater code point, whatever
follows. -/
theorem encodeChar_append_lt {c d : Char} (h : c.toNat < d.toNat) (s t : Octets) :
    encodeChar c ++ s < encodeChar d ++ t := by
  have hc : c.toNat < 0x110000 := by
    rcases c.valid with h | h
    · exact h.trans (by decide)
    · exact h.2
  simp only [encodeChar]
  split_ifs <;> simp only [List.cons_append, List.nil_append, List.cons_lt_cons_iff] <;> omega

theorem nil_lt_encodeChar_append (c : Char) (t : Octets) : [] < encodeChar c ++ t := by
  simp only [encodeChar]
  split_ifs <;> exact List.nil_lt_cons _ _

theorem append_lt_append_iff {s t u : Octets} : u ++ s < u ++ t ↔ s < t := by
  have hmono : StrictMono fun v : Octets => u ++ v := fun _ _ => List.append_left_lt
  exact hmono.lt_iff_lt

end Utf8

namespace Text

theorem precedes_iff_encode_lt {s t : Text} :
    precedes s t = true ↔ Utf8.encode s < Utf8.encode t := by
  induction s generalizing t with
  | nil =>
      cases t with
      | nil => simp [precedes]
      | cons d t => simpa [precedes] using Utf8.nil_lt_encodeChar_append d (Utf8.encode t)
  | cons c s ih =>
      cases t with
      | nil => simp [precedes]
      | cons d t =>
          rw [Utf8.encode_cons, Utf8.encode_cons, precedes]
          rcases lt_trichotomy c.toNat d.toNat with hlt | heq | hgt
          · simp [hlt, Utf8.encodeChar_append_lt hlt]
          · obtain rfl : c = d := Char.toNat_inj.1 heq
            simp [Utf8.append_lt_append_iff, ih]
          · have hnot := lt_asymm (Utf8.encodeChar_append_lt hgt (Utf8.encode t) (Utf8.encode s))
            simp [hgt, hgt.le, hnot]

end Text

end LotSearch
