/-!
# Text as a list of characters

Requests, statements and messages are lists of Unicode characters.  This module holds the
few operations on them that every later module shares: reading a fixed beginning, splitting
around a first occurrence, joining, and the order of names by code point.
-/

namespace LotSearch

/-- Text is the list of its Unicode characters. -/
abbrev Text := List Char

namespace Text

/-! ## Literals

A proof about a long literal is made about the list of its characters, since reading a string
character by character is slow. -/

theorem of_literal {p : Text → Prop} {t : Text} (h : p t) : p (String.ofList t).toList := by
  rwa [String.toList_ofList]

theorem append_literal {a b c : Text} (h : a ++ b = c) :
    (String.ofList a).toList ++ (String.ofList b).toList = (String.ofList c).toList := by
  simpa only [String.toList_ofList]

/-! ## Beginnings and occurrences -/

/-- The text after a fixed beginning, when the text has that beginning. -/
def after? : Text → Text → Option Text
  | [], t => some t
  | _ :: _, [] => none
  | p :: ps, c :: t => if p = c then after? ps t else none

@[simp] theorem after?_nil (t : Text) : after? [] t = some t := by
  cases t <;> rfl

theorem after?_eq_some_iff {p t r : Text} : after? p t = some r ↔ t = p ++ r := by
  induction p generalizing t with
  | nil => simp [eq_comm]
  | cons a p ih =>
      cases t with
      | nil => simp [after?]
      | cons c t =>
          by_cases h : a = c
          · subst h
            simp [after?, ih]
          · simp [after?, h, Ne.symm h]

/-- The text around the first occurrence of `p`: what stands before it and what follows. -/
def breakAt? (p : Text) : Text → Option (Text × Text)
  | [] => (after? p []).map fun r => ([], r)
  | c :: t =>
      match after? p (c :: t) with
      | some r => some ([], r)
      | none => (breakAt? p t).map fun (before, r) => (c :: before, r)

theorem append_of_breakAt? {p t before r : Text} (h : breakAt? p t = some (before, r)) :
    t = before ++ p ++ r := by
  induction t generalizing before with
  | nil =>
      simp only [breakAt?, Option.map_eq_some_iff] at h
      obtain ⟨s, hs, heq⟩ := h
      cases heq
      simpa using after?_eq_some_iff.1 hs
  | cons c t ih =>
      simp only [breakAt?] at h
      split at h
      · rename_i s hs
        cases h
        simpa using after?_eq_some_iff.1 hs
      · simp only [Option.map_eq_some_iff] at h
        obtain ⟨⟨b, s⟩, hb, heq⟩ := h
        cases heq
        simp [ih hb]

/-- Whether `p` occurs somewhere in the text. -/
def occursIn (p t : Text) : Bool := (breakAt? p t).isSome

/-- The text around the last occurrence of a character. -/
def breakAtLast? (c : Char) : Text → Option (Text × Text)
  | [] => none
  | d :: t =>
      match breakAtLast? c t with
      | some (before, r) => some (d :: before, r)
      | none => if d = c then some ([], t) else none

def splitOn (c : Char) : Text → List Text
  | [] => [[]]
  | d :: t =>
      if d = c then [] :: splitOn c t
      else
        match splitOn c t with
        | [] => [[d]]
        | piece :: pieces => (d :: piece) :: pieces

/-- The text without its longest end whose characters all satisfy `p`. -/
def dropEndWhile (p : Char → Bool) (t : Text) : Text := (t.reverse.dropWhile p).reverse

theorem dropEndWhile_length_le (p : Char → Bool) (t : Text) :
    (dropEndWhile p t).length ≤ t.length := by
  have h : (t.reverse.dropWhile p).length ≤ t.reverse.length :=
    (List.dropWhile_sublist p).length_le
  simpa [dropEndWhile] using h

/-- The pieces joined with `sep` between neighbours. -/
def join (sep : Text) : List Text → Text
  | [] => []
  | [piece] => piece
  | piece :: next :: pieces => piece ++ sep ++ join sep (next :: pieces)

@[simp] theorem join_nil (sep : Text) : join sep [] = [] := rfl

@[simp] theorem join_singleton (sep piece : Text) : join sep [piece] = piece := rfl

theorem join_cons_cons (sep piece next : Text) (pieces : List Text) :
    join sep (piece :: next :: pieces) = piece ++ sep ++ join sep (next :: pieces) := rfl

/-- The order of names: by the first code point that differs, a beginning before its
continuations. -/
def precedes : Text → Text → Bool
  | [], [] => false
  | [], _ :: _ => true
  | _ :: _, [] => false
  | a :: s, b :: t =>
      if a.toNat < b.toNat then true else if b.toNat < a.toNat then false else precedes s t

/-- The list without later repetitions of an entry. -/
def distinct (names : List Text) : List Text :=
  names.foldl (fun kept name => if kept.contains name then kept else kept ++ [name]) []

end Text

/-- Membership of a code point in a table of inclusive ranges. -/
def inRanges (table : List (Nat × Nat)) (n : Nat) : Bool :=
  table.any fun (first, last) => first ≤ n && n ≤ last

theorem inRanges_eq_true_iff {table : List (Nat × Nat)} {n : Nat} :
    inRanges table n = true ↔ ∃ range ∈ table, range.1 ≤ n ∧ n ≤ range.2 := by
  simp [inRanges]

end LotSearch
