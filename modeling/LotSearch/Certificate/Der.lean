import LotSearch.Text.Utf8

/-!
# Tagged binary data

An element is a tag, a length and as many octets.  Lengths are written in the fewest octets, and
the octets of a compound element are elements again.
-/

namespace LotSearch

/-- A tagged sequence of octets. -/
structure DerElement where
  tag : Nat
  octets : Octets
deriving Repr, DecidableEq

namespace Der

/-! The tags of the elements that occur in certificates and keys. -/

def truthValue : Nat := 0x01
def integer : Nat := 0x02
def bitString : Nat := 0x03
def octetString : Nat := 0x04
def objectName : Nat := 0x06
def sequence : Nat := 0x30

/-- The tag of a part that is known by its number. -/
def numbered (n : Nat) : Nat := 0xA0 + n

/-- The natural number that octets stand for, the most significant first. -/
def natural (octets : Octets) : Nat := octets.foldl (fun n b => 256 * n + b) 0

/-- Reads a length: below 128 as it is, else behind the number of its octets, at most four. -/
def length? : Octets → Option (Nat × Octets)
  | [] => none
  | b :: octets =>
      if b < 0x80 then some (b, octets)
      else
        let count := b - 0x80
        let n := natural (octets.take count)
        if 1 ≤ count && count ≤ 4 && count ≤ octets.length
            && 0x80 ≤ n && Nat.pow 256 (count - 1) ≤ n then
          some (n, octets.drop count)
        else none

theorem length_lt_of_length? {octets rest : Octets} {n : Nat}
    (h : length? octets = some (n, rest)) : rest.length < octets.length := by
  cases octets with
  | nil => simp [length?] at h
  | cons b octets =>
      simp only [length?] at h
      split at h
      · obtain ⟨_, rfl⟩ := Prod.mk.inj (Option.some.inj h)
        simp
      · split at h
        · obtain ⟨_, rfl⟩ := Prod.mk.inj (Option.some.inj h)
          simp only [List.length_drop, List.length_cons]
          omega
        · simp at h

/-- Reads an element.  Only tags of one octet are known. -/
def element? : Octets → Option (DerElement × Octets)
  | [] => none
  | tag :: octets =>
      if tag % 0x20 = 0x1F then none
      else
        (length? octets).bind fun (n, octets) =>
          if n ≤ octets.length then some (⟨tag, octets.take n⟩, octets.drop n) else none

theorem length_lt_of_element? {octets rest : Octets} {e : DerElement}
    (h : element? octets = some (e, rest)) : rest.length < octets.length := by
  cases octets with
  | nil => simp [element?] at h
  | cons tag octets =>
      simp only [element?] at h
      split at h
      · simp at h
      · obtain ⟨⟨n, behind⟩, hn, h⟩ := Option.bind_eq_some_iff.1 h
        have hlt := length_lt_of_length? hn
        simp only at h
        split at h
        · obtain ⟨_, rfl⟩ := Prod.mk.inj (Option.some.inj h)
          simp only [List.length_drop, List.length_cons]
          omega
        · simp at h

/-- Reads elements up to the end. -/
def elements? (octets : Octets) : Option (List DerElement) :=
  match _found : element? octets with
  | some (e, rest) => (elements? rest).map (e :: ·)
  | none => if octets.isEmpty then some [] else none
termination_by octets.length
decreasing_by
  exact length_lt_of_element? ‹_›

/-- The elements of octets that are one element with a tag. -/
def inside? (tag : Nat) (octets : Octets) : Option (List DerElement) :=
  match elements? octets with
  | some [e] => if e.tag = tag then elements? e.octets else none
  | _ => none

end Der

end LotSearch
