import LotSearch.Proofs.Json.Fields
import LotSearch.Proofs.Json.Quoted
import LotSearch.Proofs.Text.Delimited
import LotSearch.Proofs.Text.Number

/-!
# The syntax of JSON

Values, items and fields are told by what they are put together from.  A value whose syntax is right
is skipped, whatever comes behind it, when no more lists and objects may be nested than it has
characters.  Only a number does not show its end itself.
-/

namespace LotSearch.Json

open Text

/-- The end of a number: nothing, or a letter, perhaps a sign, and at least one digit. -/
def IsPower (t : Text) : Prop :=
  t = [] ∨ ∃ e sign digits, t = e :: (sign ++ digits) ∧ (e = 'e' ∨ e = 'E') ∧
    (sign = [] ∨ sign = ['+'] ∨ sign = ['-']) ∧ IsDigits digits

/-- A number: perhaps a sign, digits without a leading zero, and perhaps a fraction and a power. -/
inductive IsNumber : Text → Prop
  | mk {sign whole fraction power : Text} (hsign : sign = [] ∨ sign = ['-'])
      (hwhole : IsDigits whole) (hzero : whole.head? = some '0' → whole = ['0'])
      (hfraction : IsFraction fraction) (hpower : IsPower power) :
      IsNumber (sign ++ (whole ++ (fraction ++ power)))

/-- The parts of JSON. -/
inductive Part where
  | value
  /-- A value with spaces around it. -/
  | item
  | items
  /-- A name and a value with spaces around them. -/
  | field
  | fields

inductive IsJson : Part → Text → Prop
  | word {w : Text} (h : w ∈ ["null".toList, "true".toList, "false".toList]) : IsJson .value w
  | number {t : Text} (h : IsNumber t) : IsJson .value t
  | text {s u : Text} (h : Writes s u) : IsJson .value ('"' :: (u ++ ['"']))
  | emptyList {gap : Text} (h : Spaces gap) : IsJson .value ('[' :: (gap ++ [']']))
  | list {u : Text} (h : IsJson .items u) : IsJson .value ('[' :: (u ++ [']']))
  | emptyObject {gap : Text} (h : Spaces gap) : IsJson .value ('\x7b' :: (gap ++ ['\x7d']))
  | object {u : Text} (h : IsJson .fields u) : IsJson .value ('\x7b' :: (u ++ ['\x7d']))
  | item {gap v gap' : Text} (hgap : Spaces gap) (hv : IsJson .value v) (hgap' : Spaces gap') :
      IsJson .item (gap ++ (v ++ gap'))
  | oneItem {u : Text} (h : IsJson .item u) : IsJson .items u
  | moreItems {u v : Text} (h : IsJson .item u) (hs : IsJson .items v) :
      IsJson .items (u ++ ',' :: v)
  | field {gap name n gap' u : Text} (hgap : Spaces gap) (hname : Writes name n)
      (hgap' : Spaces gap') (h : IsJson .item u) :
      IsJson .field (gap ++ '"' :: (n ++ '"' :: (gap' ++ ':' :: u)))
  | oneField {u : Text} (h : IsJson .field u) : IsJson .fields u
  | moreFields {u v : Text} (h : IsJson .field u) (hs : IsJson .fields v) :
      IsJson .fields (u ++ ',' :: v)

/-! ## Numbers -/

theorem mem_of_isSpace {c : Char} (h : isSpace c = true) : c ∈ [' ', '\n', '\t', '\r'] := by
  simpa [isSpace, or_assoc] using h

/-- A character that does not end a value does not stand behind it. -/
theorem Ends.head?_any {t : Text} (h : Ends t) {p : Char → Bool}
    (hp : ([' ', '\n', '\t', '\r', ',', ']', '\x7d'].all fun c => !p c) = true) :
    t.head?.any p = false := by
  cases t with
  | nil => rfl
  | cons c t =>
      have hc : c ∈ [' ', '\n', '\t', '\r', ',', ']', '\x7d'] := by
        rcases h c rfl with hspace | hend
        · exact List.mem_append_left [',', ']', '\x7d'] (mem_of_isSpace hspace)
        · exact List.mem_append_right [' ', '\n', '\t', '\r'] hend
      simpa using List.all_eq_true.1 hp c hc

theorem readFraction_append {f t : Text} (hf : IsFraction f)
    (ht : t.head?.any (fun c => isAsciiDigit c || c == '.') = false) :
    ∃ digits, readFraction (f ++ t) = .ok (digits, t) := by
  rcases hf with rfl | ⟨digits, rfl, hne, hdigits⟩
  · refine ⟨[], ?_⟩
    cases t with
    | nil => rfl
    | cons c t =>
        have hpoint : c ≠ '.' := by
          rintro rfl
          simp at ht
        simp [readFraction, hpoint]
  · have hstop : t.head?.any isAsciiDigit = false := by
      cases t with
      | nil => rfl
      | cons c t => simp_all
    refine ⟨digits, ?_⟩
    simp [readFraction, takeWhile_append_of_class hdigits hstop,
      dropWhile_append_of_class hdigits hstop, hne]

theorem readPower_digits_append {digits t : Text} (h : IsDigits digits)
    (ht : t.head?.any isAsciiDigit = false) :
    readPower.digits (digits ++ t) = .ok (digitsValue digits, t) := by
  obtain ⟨hne, hdigits⟩ := h
  simp [readPower.digits, takeWhile_append_of_class hdigits ht,
    dropWhile_append_of_class hdigits ht, hne]

theorem readPower_append {p t : Text} (hp : IsPower p) (ht : Ends t) :
    ∃ n, readPower (p ++ t) = .ok (n, t) := by
  rcases hp with rfl | ⟨e, sign, digits, rfl, he, hsign, hdigits⟩
  · refine ⟨none, ?_⟩
    cases t with
    | nil => rfl
    | cons c t =>
        have hletter := ht.head?_any (p := fun c => c = 'e' || c = 'E') (by decide)
        simp at hletter
        simp [readPower, hletter]
  · have hread := readPower_digits_append hdigits (ht.head?_any (by decide))
    rcases hsign with rfl | rfl | rfl
    · refine ⟨some (digitsValue digits), ?_⟩
      obtain ⟨d, digits, rfl⟩ := List.exists_cons_of_ne_nil hdigits.1
      have hd := hdigits.2 d List.mem_cons_self
      have hplus : d ≠ '+' := ne_of_class hd (by decide)
      have hminus : d ≠ '-' := ne_of_class hd (by decide)
      rw [List.cons_append] at hread
      simp [readPower, he, hplus, hminus, hread, Except.map]
    · exact ⟨some (digitsValue digits), by simp [readPower, he, hread, Except.map]⟩
    · exact ⟨some (-digitsValue digits), by simp [readPower, he, hread, Except.map]⟩

theorem readUnsigned_append (negative : Bool) {whole fraction power rest : Text}
    (hwhole : IsDigits whole) (hzero : whole.head? = some '0' → whole = ['0'])
    (hfraction : IsFraction fraction) (hpower : IsPower power) (hrest : Ends rest) :
    ∃ n, readUnsigned negative (whole ++ (fraction ++ (power ++ rest))) = .ok (n, rest) := by
  have hbehind : (power ++ rest).head?.any (fun c => isAsciiDigit c || c == '.') = false := by
    rcases hpower with rfl | ⟨e, sign, digits, rfl, rfl | rfl, -⟩
    · exact hrest.head?_any (by decide)
    · rfl
    · rfl
  have hstop : (fraction ++ (power ++ rest)).head?.any isAsciiDigit = false := by
    rcases hfraction with rfl | ⟨digits, rfl, -⟩
    · rw [List.nil_append]
      generalize power ++ rest = t at hbehind
      cases t with
      | nil => rfl
      | cons c t => simp_all
    · rfl
  obtain ⟨digits, hdigits⟩ := readFraction_append hfraction hbehind
  obtain ⟨exponent, hexponent⟩ := readPower_append hpower hrest
  have hleading : (whole.isEmpty || (whole.length ≠ 1 && whole.head? = some '0')) = false := by
    have hnonempty : whole.isEmpty = false := by simpa using hwhole.1
    by_cases hhead : whole.head? = some '0'
    · simp [hzero hhead]
    · simp [hnonempty, hhead]
  refine ⟨⟨negative, whole, digits, exponent⟩, ?_⟩
  simp only [readUnsigned, takeWhile_append_of_class hwhole.2 hstop,
    dropWhile_append_of_class hwhole.2 hstop, hleading, Bool.false_eq_true, if_false, hdigits,
    hexponent, bind, Except.bind, pure, Except.pure]

/-- A number is read up to where a value may end. -/
theorem IsNumber.readNumeral_append {t : Text} (h : IsNumber t) {rest : Text} (hrest : Ends rest) :
    ∃ n, readNumeral (t ++ rest) = .ok (n, rest) := by
  cases h with
  | @mk sign whole fraction power hsign hwhole hzero hfraction hpower =>
      have hread := fun negative => readUnsigned_append negative hwhole hzero hfraction hpower hrest
      simp only [List.append_assoc]
      rcases hsign with rfl | rfl
      · obtain ⟨n, hn⟩ := hread false
        refine ⟨n, ?_⟩
        rw [List.nil_append, readNumeral]
        · exact hn
        · rintro t ht
          obtain ⟨d, whole, rfl⟩ := List.exists_cons_of_ne_nil hwhole.1
          obtain ⟨rfl, -⟩ := List.cons.inj ht
          exact absurd (hwhole.2 '-' List.mem_cons_self) (by decide)
      · exact hread true

theorem IsNumber.exists_head {t : Text} (h : IsNumber t) :
    ∃ c r, t = c :: r ∧ (c = '-' ∨ isAsciiDigit c = true) := by
  cases h with
  | mk hsign hwhole _ _ _ =>
      obtain ⟨d, whole, rfl⟩ := List.exists_cons_of_ne_nil hwhole.1
      rcases hsign with rfl | rfl
      · exact ⟨d, _, rfl, .inr (hwhole.2 d List.mem_cons_self)⟩
      · exact ⟨'-', _, rfl, .inl rfl⟩

/-! ## Values skipped -/

theorem skipValue_skipSpace (depth : Nat) (t : Text) :
    skipValue depth (skipSpace t) = skipValue depth t := by
  rw [skipValue.eq_def, skipValue.eq_def depth t, skipSpace_skipSpace]

theorem skipValue_append {gap : Text} (hgap : Spaces gap) (depth : Nat) (t : Text) :
    skipValue depth (gap ++ t) = skipValue depth t := by
  rw [← skipValue_skipSpace, skipSpace_append hgap, skipValue_skipSpace]

/-- The reader of a field whose value is skipped. -/
def skipField (depth : Nat) (_ _ : Unit) (t : Text) : Reading (Unit × Text) := do
  let t ← readColon t
  skipValue depth t

/-- What it takes to skip a part of JSON. -/
def Skips (depth : Nat) : Part → Text → Prop
  | .value, u => ∀ rest, Ends rest → skipValue depth (u ++ rest) = .ok ((), rest)
  | .item, u => ReadsItem (skipValue depth) () u
  | .items, u => ∃ xs, ReadsItems (skipValue depth) xs u
  | .field, u => ReadsField skipQuoted (skipField depth) () () u
  | .fields, u => ReadsFields skipQuoted (skipField depth) () () u

theorem readWord_append (word rest : Text) : readWord word (word ++ rest) = .ok rest := by
  simp [readWord, after?_eq_some_iff.2 (Eq.refl (word ++ rest))]

theorem skipValue_word {w : Text} (h : w ∈ ["null".toList, "true".toList, "false".toList])
    (depth : Nat) (rest : Text) : skipValue depth (w ++ rest) = .ok ((), rest) := by
  simp only [List.mem_cons, List.not_mem_nil, or_false] at h
  rcases h with rfl | rfl | rfl
  · have hskip : skipSpace ("null".toList ++ rest) = 'n' :: ("ull".toList ++ rest) := rfl
    rw [skipValue.eq_def, hskip]
    simp only [readWord_append, bind, Except.bind, pure, Except.pure]
  · have hskip : skipSpace ("true".toList ++ rest) = 't' :: ("rue".toList ++ rest) := rfl
    rw [skipValue.eq_def, hskip]
    simp only [readWord_append, bind, Except.bind, pure, Except.pure]
  · have hskip : skipSpace ("false".toList ++ rest) = 'f' :: ("alse".toList ++ rest) := rfl
    rw [skipValue.eq_def, hskip]
    simp only [readWord_append, bind, Except.bind, pure, Except.pure]

theorem skipValue_number {t : Text} (h : IsNumber t) (depth : Nat) {rest : Text}
    (hrest : Ends rest) : skipValue depth (t ++ rest) = .ok ((), rest) := by
  obtain ⟨n, hn⟩ := h.readNumeral_append hrest
  obtain ⟨c, r, rfl, hc⟩ := h.exists_head
  have hother : ∀ d, isAsciiDigit d = false → d ≠ '-' → c ≠ d := by
    rintro d hd hminus rfl
    rcases hc with rfl | hdigit
    · exact hminus rfl
    · simp [hd] at hdigit
  have hspace : isSpace c = false := by
    by_contra hblank
    have hmem := mem_of_isSpace (by simpa using hblank)
    have hall : ∀ d ∈ [' ', '\n', '\t', '\r'], isAsciiDigit d = false ∧ d ≠ '-' :=
      forall_mem_of_all (by decide)
    exact hother c (hall c hmem).1 (hall c hmem).2 rfl
  have hskip : skipSpace (c :: r ++ rest) = c :: (r ++ rest) := skipSpace_cons hspace _
  rw [skipValue.eq_def, hskip]
  split
  · next heq => exact absurd (List.cons.inj heq).1 (hother _ (by decide) (by decide))
  · next heq => exact absurd (List.cons.inj heq).1 (hother _ (by decide) (by decide))
  · next heq => exact absurd (List.cons.inj heq).1 (hother _ (by decide) (by decide))
  · next heq => exact absurd (List.cons.inj heq).1 (hother _ (by decide) (by decide))
  · next heq => exact absurd (List.cons.inj heq).1 (hother _ (by decide) (by decide))
  · next heq => exact absurd (List.cons.inj heq).1 (hother _ (by decide) (by decide))
  · rw [List.cons_append] at hn
    simp only [hn, bind, Except.bind, pure, Except.pure]

theorem skipValue_emptyList {gap : Text} (hgap : Spaces gap) (depth : Nat) (rest : Text) :
    skipValue (depth + 1) ('[' :: (gap ++ ']' :: rest)) = .ok ((), rest) := by
  rw [skipValue.eq_def, skipSpace_cons (by decide)]
  simp only [readItems, skipSpace_append_cons hgap (c := ']') (by decide), bind, Except.bind, pure,
    Except.pure]

theorem skipValue_list {depth : Nat} {xs : List Unit} {u : Text}
    (h : ReadsItems (skipValue depth) xs u) (rest : Text) :
    skipValue (depth + 1) ('[' :: (u ++ ']' :: rest)) = .ok ((), rest) := by
  obtain ⟨x, xs', behind, -, hitem, -, hmore⟩ := h rest
  have hmore := hmore behind.length (le_refl _)
  have hclose : ∀ r, skipSpace (u ++ ']' :: rest) ≠ ']' :: r := by
    intro r hskip
    rw [← skipValue_skipSpace, hskip, skipValue.eq_def, skipSpace_cons (by decide)] at hitem
    cases hitem
  have hitems : readItems (skipValue depth) (u ++ ']' :: rest) = .ok (x :: xs', rest) := by
    rw [readItems]
    split
    · next hskip => exact absurd hskip (hclose _)
    · simp only [skipValue_skipSpace, hitem, hmore, bind, Except.bind, pure, Except.pure]
  rw [skipValue.eq_def, skipSpace_cons (by decide)]
  simp only [hitems, bind, Except.bind, pure, Except.pure]

theorem skipValue_emptyObject {gap : Text} (hgap : Spaces gap) (depth : Nat) (rest : Text) :
    skipValue (depth + 1) ('\x7b' :: (gap ++ '\x7d' :: rest)) = .ok ((), rest) := by
  rw [skipValue.eq_def, skipSpace_cons (by decide)]
  simp only [readFields, skipSpace_append_cons hgap (c := '\x7d') (by decide)]

theorem skipValue_object {depth : Nat} {u : Text}
    (h : ReadsFields skipQuoted (skipField depth) () () u) (rest : Text) :
    skipValue (depth + 1) ('\x7b' :: (u ++ '\x7d' :: rest)) = .ok ((), rest) := by
  rw [skipValue.eq_def, skipSpace_cons (by decide)]
  exact h.readFields rest

theorem readsItem_of_value {depth : Nat} {gap v gap' : Text} (hgap : Spaces gap)
    (hgap' : Spaces gap')
    (h : ∀ rest, Ends rest → skipValue depth (v ++ rest) = .ok ((), rest)) :
    ReadsItem (skipValue depth) () (gap ++ (v ++ gap')) := by
  intro rest hrest
  refine ⟨gap', hgap', ⟨gap ++ v, List.append_assoc _ _ _⟩, ?_⟩
  rw [List.append_assoc, skipValue_append hgap, List.append_assoc]
  exact h _ (hrest.append hgap')

theorem readsField_of_item {depth : Nat} {gap name n gap' u : Text} (hgap : Spaces gap)
    (hname : Writes name n) (hgap' : Spaces gap') (h : ReadsItem (skipValue depth) () u) :
    ReadsField skipQuoted (skipField depth) () ()
      (gap ++ '"' :: (n ++ '"' :: (gap' ++ ':' :: u))) := by
  intro rest hrest
  obtain ⟨last, hlast, ⟨v, rfl⟩, hitem⟩ := h rest hrest
  refine ⟨(), gap' ++ ':' :: (v ++ last ++ rest), last, ?_, hlast, ?_, ?_⟩
  · have hread := readName_append hgap
      (hname.skipQuoted_append (gap' ++ ':' :: (v ++ last ++ rest)))
    simpa using hread
  · exact ⟨gap ++ '"' :: (n ++ '"' :: (gap' ++ ':' :: v)), by simp⟩
  · rw [skipField, readColon_append hgap']
    exact hitem

/-- Brackets need one level of nesting for the two characters that they add. -/
theorem exists_succ {depth : Nat} {c d : Char} {u : Text} (h : (c :: (u ++ [d])).length ≤ depth) :
    ∃ depth', depth = depth' + 1 ∧ u.length ≤ depth' := by
  simp only [List.length_cons, List.length_append] at h
  exact ⟨depth - 1, by omega, by omega⟩

/-- A part of JSON is skipped when as many lists and objects may be nested as it has
characters. -/
theorem IsJson.skips {part : Part} {u : Text} (h : IsJson part u) {depth : Nat}
    (hdepth : u.length ≤ depth) : Skips depth part u := by
  induction h generalizing depth with
  | word h => exact fun rest _ => skipValue_word h depth rest
  | number h => exact fun rest hrest => skipValue_number h depth hrest
  | @text s u h =>
      intro rest _
      have hquote : skipSpace ('"' :: (u ++ ['"']) ++ rest) = '"' :: (u ++ '"' :: rest) := by
        simp [skipSpace, isSpace]
      rw [skipValue.eq_def, hquote]
      exact h.skipQuoted_append rest
  | @emptyList gap h =>
      intro rest _
      obtain ⟨depth, rfl, -⟩ := exists_succ hdepth
      simpa using skipValue_emptyList h depth rest
  | @list u h ih =>
      intro rest _
      obtain ⟨depth, rfl, hinner⟩ := exists_succ hdepth
      obtain ⟨xs, hitems⟩ := ih hinner
      simpa using skipValue_list hitems rest
  | @emptyObject gap h =>
      intro rest _
      obtain ⟨depth, rfl, -⟩ := exists_succ hdepth
      simpa using skipValue_emptyObject h depth rest
  | @object u h ih =>
      intro rest _
      obtain ⟨depth, rfl, hinner⟩ := exists_succ hdepth
      simpa using skipValue_object (ih hinner) rest
  | item hgap hv hgap' ih =>
      exact readsItem_of_value hgap hgap' (ih (by simp at hdepth; omega))
  | oneItem h ih => exact ⟨[()], (ih hdepth).one⟩
  | moreItems h hs ih ihs =>
      simp only [List.length_append, List.length_cons] at hdepth
      obtain ⟨xs, hitems⟩ := @ihs depth (by omega)
      exact ⟨() :: xs, hitems.more (ih (by omega))⟩
  | field hgap hname hgap' h ih =>
      exact readsField_of_item hgap hname hgap' (ih (by simp at hdepth; omega))
  | oneField h ih => exact (ih hdepth).one
  | moreFields h hs ih ihs =>
      simp only [List.length_append, List.length_cons] at hdepth
      exact (@ihs depth (by omega)).more (ih (by omega))

end LotSearch.Json
