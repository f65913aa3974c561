import LotSearch.Proofs.Json.Quoted
import LotSearch.Reply
import LotSearch.Text.Utf8

/-!
# The first object of a reply

The first object is looked for from the first opening brace on, with a count of the open braces and
without regard to braces in quoted texts.  Here quoted texts are given by a grammar and balance by
counting.  As long as a brace is open, the search takes the shortest beginning that closes all of
them.  The first character opens a brace and the search ends where none is open any more, so it
never closes one that is not open.
-/

namespace LotSearch.Reply

open Json

/-! ## Outside quoted texts -/

/-- What stands in a text outside its quoted texts.  A quote that no other closes opens a quoted
text up to the end. -/
inductive Unquoted : Text → Text → Prop
  | nil : Unquoted [] []
  | plain {c : Char} {t u : Text} (hquote : c ≠ '"') (h : Unquoted t u) :
      Unquoted (c :: t) (c :: u)
  | quoted {inside t u : Text} (hinside : Inside inside) (h : Unquoted t u) :
      Unquoted ('"' :: (inside ++ '"' :: t)) u
  | unclosed {t : Text} (h : ∀ inside rest, Inside inside → t ≠ inside ++ '"' :: rest) :
      Unquoted ('"' :: t) []

/-- What stands outside quoted texts behind a place. -/
def unquoted : Quoting → Text → Text
  | _, [] => []
  | q, c :: t =>
      if q = .outside ∧ c ≠ '"' then c :: unquoted .outside t else unquoted (q.next c) t

theorem unquoted_inside {u : Text} (h : Inside u) (rest : Text) :
    unquoted .inside (u ++ '"' :: rest) = unquoted .outside rest := by
  induction h with
  | nil => simp [unquoted, Quoting.next]
  | escaped c _ ih => simpa [unquoted, Quoting.next] using ih
  | plain hquote hescape _ ih => simpa [unquoted, Quoting.next, hquote, hescape] using ih

theorem unquoted_unclosed {t : Text} (h : splitQuoted t = none) : unquoted .inside t = [] := by
  induction t using splitQuoted.induct with
  | case1 => rfl
  | case2 => rfl
  | case3 c t ih =>
      rw [splitQuoted, Option.map_eq_none_iff] at h
      simpa [unquoted, Quoting.next] using ih h
  | case4 t h₁ h₂ =>
      rw [splitQuoted, if_pos rfl] at h
      · cases h
      · exact h₁
      · exact h₂
  | case5 c t h₁ h₂ hquote ih =>
      rw [splitQuoted, if_neg hquote, Option.map_eq_none_iff] at h
      · by_cases hescape : c = '\\'
        · -- a backslash at the end
          cases t with
          | nil => simp [unquoted]
          | cons d t => exact absurd rfl (h₂ d t hescape)
        · simpa [unquoted, Quoting.next, hquote, hescape] using ih h
      · exact h₁
      · exact h₂

theorem Unquoted.eq_unquoted {t u : Text} (h : Unquoted t u) : unquoted .outside t = u := by
  induction h with
  | nil => rfl
  | plain hquote _ ih => simp [unquoted, hquote, ih]
  | quoted hinside _ ih => simpa [unquoted, Quoting.next, unquoted_inside hinside] using ih
  | unclosed h =>
      have hsplit := Option.eq_none_iff_forall_ne_some.2 fun (inside, rest) heq =>
        h inside rest (inside_of_splitQuoted heq).1 (inside_of_splitQuoted heq).2
      simpa [unquoted, Quoting.next] using unquoted_unclosed hsplit

theorem unquoted_spec (t : Text) : Unquoted t (unquoted .outside t) := by
  induction hlength : t.length using Nat.strong_induction_on generalizing t with
  | _ n ih =>
    cases t with
    | nil => exact .nil
    | cons c t =>
        by_cases hquote : c = '"'
        · subst hquote
          cases hsplit : splitQuoted t with
          | none =>
              have hunclosed : ∀ inside rest, Inside inside → t ≠ inside ++ '"' :: rest := by
                rintro inside rest hinside rfl
                rw [hinside.splitQuoted_append] at hsplit
                cases hsplit
              simpa [unquoted, Quoting.next, unquoted_unclosed hsplit] using
                Unquoted.unclosed hunclosed
          | some p =>
              obtain ⟨inside, rest⟩ := p
              obtain ⟨hinside, rfl⟩ := inside_of_splitQuoted hsplit
              have hshorter : rest.length < n := by
                simp only [List.length_cons, List.length_append] at hlength
                omega
              simpa [unquoted, Quoting.next, unquoted_inside hinside] using
                Unquoted.quoted hinside (ih rest.length hshorter rest rfl)
        · have hshorter : t.length < n := by
            rw [← hlength]
            exact Nat.lt_succ_self t.length
          simpa [unquoted, hquote] using Unquoted.plain hquote (ih t.length hshorter t rfl)

theorem unquoted_iff {t u : Text} : Unquoted t u ↔ unquoted .outside t = u :=
  ⟨Unquoted.eq_unquoted, fun h => h ▸ unquoted_spec t⟩

/-! ## Balance -/

/-- The text closes `depth` braces that are open before it and all that it opens, and none that is
not open. -/
def ClosesBraces (depth : Nat) (u : Text) : Prop :=
  u.count '\x7d' = depth + u.count '\x7b' ∧
    ∀ v, v <+: u → v.count '\x7d' ≤ depth + v.count '\x7b'

/-- The braces of a text balance outside quoted texts.  The empty beginning of a text, where no
brace is open yet, is none that balances. -/
def BracesBalance (s : Text) : Prop := s ≠ [] ∧ ∃ u, Unquoted s u ∧ ClosesBraces 0 u

theorem closesBraces_nil : ClosesBraces 0 [] := by
  simp [ClosesBraces]

theorem forall_prefix_cons {p : Text → Prop} {c : Char} {u : Text} :
    (∀ v, v <+: c :: u → p v) ↔ p [] ∧ ∀ v, v <+: u → p (c :: v) := by
  simp only [List.prefix_cons_iff]
  constructor
  · exact fun h => ⟨h [] (.inl rfl), fun v hv => h _ (.inr ⟨v, rfl, hv⟩)⟩
  · rintro ⟨hnil, hcons⟩ v (rfl | ⟨w, rfl, hw⟩)
    · exact hnil
    · exact hcons w hw

variable {depth : Nat} {u : Text}

theorem closesBraces_open : ClosesBraces depth ('\x7b' :: u) ↔ ClosesBraces (depth + 1) u := by
  simp [ClosesBraces, forall_prefix_cons, Nat.add_assoc, Nat.add_comm 1]

theorem closesBraces_close : ClosesBraces (depth + 1) ('\x7d' :: u) ↔ ClosesBraces depth u := by
  simp [ClosesBraces, forall_prefix_cons, Nat.add_right_comm depth 1]

theorem closesBraces_plain {c : Char} (hopen : c ≠ '\x7b') (hclose : c ≠ '\x7d') :
    ClosesBraces depth (c :: u) ↔ ClosesBraces depth u := by
  simp [ClosesBraces, forall_prefix_cons, hopen, hclose]

/-! ## Shortest beginnings -/

/-- The shortest beginning of a text with a property. -/
structure IsShortest (p : Text → Prop) (t s : Text) : Prop where
  isPrefix : s <+: t
  holds : p s
  shortest : ∀ v, v <+: t → p v → s.length ≤ v.length

variable {p : Text → Prop} {t s : Text}

theorem isShortest_iff_eq_nil (h : p []) : IsShortest p t s ↔ s = [] := by
  constructor
  · intro hs
    exact List.length_eq_zero_iff.1 (Nat.le_zero.1 (hs.shortest [] List.nil_prefix h))
  · rintro rfl
    exact ⟨List.nil_prefix, h, fun _ _ _ => Nat.zero_le _⟩

theorem not_isShortest_nil (h : ¬ p []) : ¬ IsShortest p [] s := by
  intro hs
  obtain rfl := List.prefix_nil.1 hs.isPrefix
  exact h hs.holds

theorem isShortest_cons {c : Char} (h : ¬ p []) :
    IsShortest p (c :: t) s ↔ ∃ v, IsShortest (fun w => p (c :: w)) t v ∧ c :: v = s := by
  constructor
  · rintro ⟨hbegins, hs, hshortest⟩
    rcases List.prefix_cons_iff.1 hbegins with rfl | ⟨v, rfl, hv⟩
    · exact absurd hs h
    · refine ⟨v, ⟨hv, hs, fun w hw hp => ?_⟩, rfl⟩
      simpa using hshortest (c :: w) (List.cons_prefix_cons.2 ⟨rfl, hw⟩) hp
  · rintro ⟨v, ⟨hbegins, hv, hshortest⟩, rfl⟩
    refine ⟨List.cons_prefix_cons.2 ⟨rfl, hbegins⟩, hv, fun w hw hp => ?_⟩
    rcases List.prefix_cons_iff.1 hw with rfl | ⟨x, rfl, hx⟩
    · exact absurd hp h
    · simpa using hshortest x hx hp

/-! ## The search -/

/-- From a place on, the text closes all braces that are open there or that it opens. -/
def Closes (q : Quoting) (depth : Nat) (s : Text) : Prop := ClosesBraces depth (unquoted q s)

theorem closes_open : Closes .outside depth ('\x7b' :: s) ↔ Closes .outside (depth + 1) s := by
  simp [Closes, unquoted, closesBraces_open]

theorem closes_close : Closes .outside (depth + 1) ('\x7d' :: s) ↔ Closes .outside depth s := by
  simp [Closes, unquoted, closesBraces_close]

theorem closes_plain {q : Quoting} {c : Char} (hopen : ¬ (q = .outside ∧ c = '\x7b'))
    (hclose : ¬ (q = .outside ∧ c = '\x7d')) :
    Closes q depth (c :: s) ↔ Closes (q.next c) depth s := by
  by_cases hunquoted : q = .outside ∧ c ≠ '"'
  · obtain ⟨rfl, hquote⟩ := hunquoted
    simp only [true_and] at hopen hclose
    simp [Closes, unquoted, Quoting.next, hquote, closesBraces_plain hopen hclose]
  · rw [Closes, unquoted, if_neg hunquoted, Closes]

theorem not_closes_nil (q : Quoting) (depth : Nat) : ¬ Closes q (depth + 1) [] := by
  rintro ⟨hcount, -⟩
  simp [unquoted] at hcount

/-- While braces are open, the search takes the shortest beginning that closes them. -/
theorem closeBraces?_eq_some_iff {q : Quoting} :
    closeBraces? q (depth + 1) t = some s ↔ IsShortest (Closes q (depth + 1)) t s := by
  induction t generalizing q depth s with
  | nil => simpa [closeBraces?] using not_isShortest_nil (not_closes_nil q depth)
  | cons c t ih =>
      rw [isShortest_cons (not_closes_nil q depth), closeBraces?]
      split_ifs with hopen hclose hlast
      · obtain ⟨rfl, rfl⟩ := hopen
        simp only [Option.map_eq_some_iff, ih, closes_open]
      · -- the last open brace is closed, and the empty rest closes none
        obtain ⟨rfl, rfl⟩ := hclose
        obtain rfl : depth = 0 := by omega
        have hnil : Closes .outside 0 [] := closesBraces_nil
        simp [closes_close, isShortest_iff_eq_nil hnil]
      · obtain ⟨rfl, rfl⟩ := hclose
        have hmore : depth ≠ 0 := by omega
        obtain ⟨rest, rfl⟩ := Nat.exists_eq_add_one_of_ne_zero hmore
        simp only [Nat.add_sub_cancel, Option.map_eq_some_iff, ih, closes_close]
      · simp only [Option.map_eq_some_iff, ih, closes_plain hopen hclose]

/-! ## Offsets -/

def octetCount (t : Text) : Nat := (Utf8.encode t).length

@[simp] theorem octetCount_nil : octetCount [] = 0 := rfl

@[simp] theorem octetCount_cons (c : Char) (t : Text) :
    octetCount (c :: t) = (Utf8.encodeChar c).length + octetCount t := by
  simp [octetCount]

theorem octetCount_append (t u : Text) : octetCount (t ++ u) = octetCount t + octetCount u := by
  simp [octetCount, Utf8.encode]

/-- How a search ends that knows where it is and how many braces are open. -/
inductive Scan where
  /-- It closes a brace though none is open. -/
  | unopened
  /-- It comes to the end of the text. -/
  | unclosed
  /-- It closes the last open brace, and has found the octets from `start` to `finish`. -/
  | closed (start finish : Nat)
deriving Repr, DecidableEq

/-- The search from an offset on, by octets.  The number of open braces is taken down before it is
looked at, which fails where it is zero. -/
def scanBraces (start : Nat) : Quoting → Nat → Nat → Text → Scan
  | _, _, _, [] => .unclosed
  | q, depth, offset, c :: t =>
      if q = .outside ∧ c = '\x7b' then
        scanBraces start .outside (depth + 1) (offset + (Utf8.encodeChar c).length) t
      else if q = .outside ∧ c = '\x7d' then
        match depth with
        | 0 => .unopened
        | depth + 1 =>
            if depth = 0 then .closed start (offset + 1)
            else scanBraces start .outside depth (offset + (Utf8.encodeChar c).length) t
      else scanBraces start (q.next c) depth (offset + (Utf8.encodeChar c).length) t

/-- The search for the first object, by octets. -/
def scanObject (t : Text) : Scan :=
  let start := octetCount (t.takeWhile (· != '\x7b'))
  scanBraces start .outside 0 start (t.dropWhile (· != '\x7b'))

/-- While braces are open, the search closes none that is not, and ends behind what it takes. -/
theorem scanBraces_eq (start : Nat) (q : Quoting) (depth offset : Nat) (t : Text) :
    scanBraces start q (depth + 1) offset t =
      (closeBraces? q (depth + 1) t).elim .unclosed
        fun s => .closed start (offset + octetCount s) := by
  induction t generalizing q depth offset with
  | nil => rfl
  | cons c t ih =>
      rw [scanBraces.eq_def, closeBraces?]
      by_cases hopen : q = .outside ∧ c = '\x7b'
      · simp [if_pos hopen, ih, Option.elim_map, Nat.add_assoc, Function.comp_def]
      by_cases hclose : q = .outside ∧ c = '\x7d'
      · cases depth with
        | zero => simp [hclose, Utf8.encodeChar]
        | succ rest =>
            simp [if_neg hopen, if_pos hclose, ih, Option.elim_map, Nat.add_assoc,
              Function.comp_def]
      · simp [if_neg hopen, if_neg hclose, ih, Option.elim_map, Nat.add_assoc, Function.comp_def]

theorem bracesBalance_open : BracesBalance ('\x7b' :: s) ↔ Closes .outside 1 s := by
  simp [BracesBalance, unquoted_iff, unquoted, closesBraces_open, Closes]

theorem dropWhile_eq_nil_or (t : Text) :
    t.dropWhile (· != '\x7b') = [] ∨ ∃ r, t.dropWhile (· != '\x7b') = '\x7b' :: r := by
  induction t with
  | nil => exact .inl rfl
  | cons c t ih =>
      by_cases hc : c = '\x7b'
      · exact .inr ⟨t, by simp [hc]⟩
      · simpa [hc] using ih

theorem firstObject?_eq_some_iff :
    firstObject? t = some s ↔ IsShortest BracesBalance (t.dropWhile (· != '\x7b')) s := by
  have hempty : ¬ BracesBalance [] := fun h => h.1 rfl
  rw [firstObject?]
  rcases dropWhile_eq_nil_or t with hnone | ⟨r, hopen⟩
  · simpa [hnone, closeBraces?] using not_isShortest_nil hempty
  · rw [hopen, isShortest_cons hempty]
    simp [closeBraces?, bracesBalance_open, closeBraces?_eq_some_iff]

theorem scanObject_eq (t : Text) :
    scanObject t = (firstObject? t).elim .unclosed fun s =>
      .closed (octetCount (t.takeWhile (· != '\x7b')))
        (octetCount (t.takeWhile (· != '\x7b') ++ s)) := by
  rw [scanObject, firstObject?]
  rcases dropWhile_eq_nil_or t with hnone | ⟨r, hopen⟩
  · simp [hnone, closeBraces?, scanBraces]
  · simp [hopen, closeBraces?, scanBraces, scanBraces_eq, octetCount_append, Option.elim_map,
      Function.comp_def, Nat.add_assoc]

/-- The search for the first object never closes a brace that is not open.  It finds the shortest
beginning, from the first opening brace on, whose braces balance, or nothing where there is none.
What it finds is a part of the text, and its octets begin and end where characters do. -/
theorem firstObject?_isShortest (t : Text) :
    let before := t.takeWhile (· != '\x7b')
    scanObject t ≠ .unopened ∧
      (∀ span, firstObject? t = some span ↔
        IsShortest BracesBalance (t.dropWhile (· != '\x7b')) span) ∧
      (firstObject? t = none → scanObject t = .unclosed) ∧
      ∀ span, firstObject? t = some span → before ++ span <+: t ∧
        scanObject t = .closed (octetCount before) (octetCount (before ++ span)) := by
  intro before
  refine ⟨?_, fun span => firstObject?_eq_some_iff, fun hnone => ?_, fun span hspan => ⟨?_, ?_⟩⟩
  · rw [scanObject_eq]
    cases firstObject? t <;> simp
  · simp [scanObject_eq, hnone]
  · have hbegins := (firstObject?_eq_some_iff.1 hspan).isPrefix
    calc before ++ span <+: before ++ t.dropWhile (· != '\x7b') :=
          (List.prefix_append_right_inj before).2 hbegins
      _ = t := List.takeWhile_append_dropWhile
  · simp [scanObject_eq, hspan, before]

/-- Neither the quote before the first brace nor the braces in quotes count. -/
example : scanObject "\u00e9\"\x7b\"\x7d\\\"\": \x7b\x7d\x7d\x7d".toList = .closed 3 14 := by
  decide

end LotSearch.Reply
