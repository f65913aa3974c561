import LotSearch.Proofs.Json.Object
import LotSearch.Proofs.Json.Record
import LotSearch.Reply

/-!
# The object of a reply

An object with a statement is read from each way to write it, and it is the first object that is
found behind a text without opening braces.  The other way round, what is read as a reply begins
with an opening brace or bracket and a quoted text, behind which the record goes on.
-/

namespace LotSearch.Reply

open Json

/-! ## What is read as a reply -/

/-- What may stand behind a quoted text where a record goes on. -/
def GoesOn (c : Char) : Prop := isSpace c = true ∨ c ∈ [':', ',', ']']

instance (c : Char) : Decidable (GoesOn c) :=
  inferInstanceAs (Decidable (isSpace c = true ∨ c ∈ [':', ',', ']']))

/-- The text begins with a quoted text behind spaces, and a record may go on behind it. -/
def BeginsQuoted (t : Text) : Prop :=
  ∃ gap w inside c rest, t = gap ++ '"' :: w ∧ Spaces gap ∧
    splitQuoted w = some (inside, c :: rest) ∧ GoesOn c

theorem exists_cons_of_skipSpace {t r : Text} {c : Char} (h : skipSpace t = c :: r)
    (hc : c ∈ [':', ',', ']']) : ∃ d t', t = d :: t' ∧ GoesOn d := by
  obtain ⟨gap, hgap, ht⟩ := exists_spaces_append t
  rw [h] at ht
  cases gap with
  | nil => exact ⟨c, r, ht, .inr hc⟩
  | cons d gap => exact ⟨d, _, ht, .inl (hgap d (by simp))⟩

theorem beginsQuoted_of_readQuoted {t w value behind : Text} (ht : skipSpace t = '"' :: w)
    (h : readQuoted w = .ok (value, behind)) (hbehind : ∃ d t', behind = d :: t' ∧ GoesOn d) :
    BeginsQuoted t := by
  obtain ⟨gap, hgap, htext⟩ := exists_spaces_append t
  obtain ⟨d, t', rfl, hd⟩ := hbehind
  rw [readQuoted] at h
  split at h
  · cases h
  · next inside rest hsplit =>
    split at h
    · cases h
    · obtain ⟨-, rfl⟩ := Prod.mk.inj (Except.ok.inj h)
      exact ⟨gap, w, inside, d, t', ht ▸ htext, hgap, hsplit, hd⟩

theorem exists_goesOn_of_readSlotField {slots : List Slot} {depth : Nat}
    {values values' : SlotValues} {name t rest : Text}
    (h : readSlotField slots depth values name t = .ok (values', rest)) :
    ∃ d t', t = d :: t' ∧ GoesOn d := by
  have hcolon : ∃ r, readColon t = .ok r := by
    cases hread : readColon t with
    | ok r => exact ⟨r, rfl⟩
    | error problem =>
        rw [readSlotField] at h
        split at h
        · simp [hread, bind, Except.bind] at h
        · split at h
          · simp [hread, bind, Except.bind] at h
          · cases h
  obtain ⟨r, hr⟩ := hcolon
  rw [readColon] at hr
  split at hr
  · next hskip => exact exists_cons_of_skipSpace hskip (by simp)
  · cases hr

theorem beginsQuoted_of_readFields {slots : List Slot} {depth : Nat}
    {values values' : SlotValues} {t rest : Text}
    (h : readFields readQuoted (readSlotField slots depth) values t = .ok (values', rest))
    (hne : values' ≠ values) : BeginsQuoted t := by
  rw [readFields] at h
  split at h
  · obtain ⟨rfl, -⟩ := Prod.mk.inj (Except.ok.inj h)
    exact absurd rfl hne
  · next t' ht =>
    simp only [bind, Except.bind] at h
    split at h
    · cases h
    · next hname =>
      split at h
      · cases h
      · next hfield =>
        rw [readName] at hname
        split at hname
        · next w hw =>
          rw [skipSpace_skipSpace] at hw
          exact beginsQuoted_of_readQuoted hw hname (exists_goesOn_of_readSlotField hfield)
        · cases hname

theorem not_ok_refuse {α : Type} {t : Text} {r : α × Text} : refuse t ≠ .ok r := by
  intro h
  rw [refuse.eq_def] at h
  dsimp only at h
  split at h
  all_goals first
    | cases h
    | split at h
      · cases h
      · cases h

theorem readQuoted_of_readSlot {depth : Nat} {t value rest : Text}
    (h : readSlot depth .optionalText t = .ok (.text value, rest)) :
    ∃ w, skipSpace t = '"' :: w ∧ readQuoted w = .ok (value, rest) := by
  rw [readSlot.eq_def] at h
  split at h
  · next heq _ => cases heq
  · next w _ hskip =>
    refine ⟨w, hskip, ?_⟩
    simp only [bind, Except.bind] at h
    split at h
    · cases h
    · next hquoted =>
      obtain ⟨hvalue, rfl⟩ := Prod.mk.inj (Except.ok.inj h)
      rw [hquoted, ← Json.text.inj hvalue]
  · simp only [bind, Except.bind] at h
    split at h
    · cases h
    · cases h
  · next heq _ => cases heq
  · next heq => cases heq
  · exact absurd h not_ok_refuse

theorem exists_goesOn_of_readSlotItems {depth : Nat} {slots : List Slot} {t rest : Text}
    {values : SlotValues} (h : readSlotItems depth false slots t = .ok (values, rest)) :
    ∃ d t', t = d :: t' ∧ GoesOn d := by
  cases slots with
  | nil =>
      rw [readSlotItems] at h
      split at h
      · next hskip => exact exists_cons_of_skipSpace hskip (by simp)
      · cases h
  | cons slot slots =>
      rw [readSlotItems] at h
      split at h
      · next hskip => exact exists_cons_of_skipSpace hskip (by simp)
      · next hskip => exact exists_cons_of_skipSpace hskip (by simp)
      · cases h

theorem beginsQuoted_of_readSlotItems {depth : Nat} {slot : Slot} {slots : List Slot}
    {t rest value : Text} {values : SlotValues}
    (h : readSlotItems depth true (slot :: slots) t = .ok (some (.text value) :: values, rest))
    (hslot : slot.type = .optionalText) : BeginsQuoted t := by
  rw [readSlotItems] at h
  split at h
  · cases h
  · cases h
  · simp only [if_true, bind, Except.bind, hslot] at h
    split at h
    · cases h
    · next _ read hread =>
      split at h
      · cases h
      · next _ items hitems =>
        obtain ⟨v, behind⟩ := read
        obtain ⟨hlist, -⟩ := Prod.mk.inj (Except.ok.inj h)
        obtain rfl : v = .text value := Option.some.inj (List.cons.inj hlist).1
        obtain ⟨w, hw, hquoted⟩ := readQuoted_of_readSlot hread
        rw [skipSpace_skipSpace] at hw
        exact beginsQuoted_of_readQuoted hw hquoted (exists_goesOn_of_readSlotItems hitems)

theorem exists_text_of_ofFields {sql explanation : Option Json} {reply : Reply}
    (h : ofFields (sql.bind text?) (explanation.bind text?) = some reply) :
    ∃ value, sql = some (.text value) := by
  cases sql with
  | none => cases h
  | some v =>
      cases v with
      | text value => exact ⟨value, rfl⟩
      | _ => cases h

/-- A reply begins with an opening brace or bracket and a quoted text. -/
theorem beginsQuoted_of_ofObject? {u : Text} {reply : Reply} (h : ofObject? u = some reply) :
    ∃ gap c t, u = gap ++ c :: t ∧ Spaces gap ∧ (c = '\x7b' ∨ c = '[') ∧ BeginsQuoted t := by
  rw [ofObject?] at h
  split at h
  · next sql explanation hrecord =>
    obtain ⟨value, rfl⟩ := exists_text_of_ofFields h
    obtain ⟨gap, hgap, hu⟩ := exists_spaces_append u
    simp only [readWholeRecord, bind, Except.bind] at hrecord
    split at hrecord
    · cases hrecord
    · next _ read hread =>
      obtain ⟨values, rest⟩ := read
      split_ifs at hrecord
      · obtain rfl := Except.ok.inj hrecord
        rw [readRecord, readRecordWith.eq_def] at hread
        split at hread
        · next t ht =>
          refine ⟨gap, _, t, ht ▸ hu, hgap, .inl rfl, beginsQuoted_of_readFields hread ?_⟩
          simp [slots]
        · next t ht =>
          exact ⟨gap, _, t, ht ▸ hu, hgap, .inr rfl, beginsQuoted_of_readSlotItems hread rfl⟩
        · exact absurd hread not_ok_refuse
  · cases h

theorem plain_of_spaces {gap : Text} (h : Spaces gap) : ∀ c ∈ gap, c ≠ '"' ∧ c ≠ '\\' :=
  fun c hc => ⟨ne_of_class (h c hc) (by decide), ne_of_class (h c hc) (by decide)⟩

/-! ## Braces -/

/-- Read from outside quotes, the text opens and closes no brace. -/
def Level (u : Text) : Prop :=
  ∀ depth t, closeBraces? .outside depth (u ++ t) = (closeBraces? .outside depth t).map (u ++ ·)

namespace Level

theorem of_plain {u : Text} (h : ∀ c ∈ u, c ≠ '"' ∧ c ≠ '\x7b' ∧ c ≠ '\x7d') : Level u := by
  intro depth t
  induction u with
  | nil => simp
  | cons c u ih =>
      obtain ⟨⟨hquote, hopen, hclose⟩, hu⟩ := List.forall_mem_cons.1 h
      simp [closeBraces?, Quoting.next, hquote, hopen, hclose, ih hu, Function.comp_def]

theorem append {u v : Text} (hu : Level u) (hv : Level v) : Level (u ++ v) := by
  intro depth t
  rw [List.append_assoc, hu, hv, Option.map_map]
  simp [Function.comp_def]

end Level

theorem closeBraces?_inside {u : Text} (h : Inside u) (depth : Nat) (rest : Text) :
    closeBraces? .inside depth (u ++ '"' :: rest) =
      (closeBraces? .outside depth rest).map fun r => u ++ '"' :: r := by
  induction h with
  | nil => simp [closeBraces?, Quoting.next]
  | escaped c _ ih => simp [closeBraces?, Quoting.next, ih, Function.comp_def]
  | plain hquote hescape _ ih =>
      simp [closeBraces?, Quoting.next, hquote, hescape, ih, Function.comp_def]

theorem level_quoted {value u : Text} (h : Writes value u) : Level ('"' :: (u ++ ['"'])) := by
  intro depth t
  have hinside := closeBraces?_inside h.inside depth t
  simp [closeBraces?, Quoting.next, hinside, Function.comp_def]

theorem level_of_spaces {gap : Text} (h : Spaces gap) : Level gap :=
  .of_plain fun c hc => ⟨ne_of_class (h c hc) (by decide), ne_of_class (h c hc) (by decide),
    ne_of_class (h c hc) (by decide)⟩

theorem level_of_writesField {f : Text × Text} {u : Text} (h : WritesField f u) : Level u := by
  cases h with
  | @mk name value n v gap₁ gap₂ gap₃ gap₄ hn hv hgap₁ hgap₂ hgap₃ hgap₄ =>
      have hcolon : Level [':'] := .of_plain (forall_mem_of_all (by decide))
      have hname := (level_of_spaces hgap₁).append (level_quoted hn)
      have hbetween := (level_of_spaces hgap₂).append (hcolon.append (level_of_spaces hgap₃))
      have hvalue := (level_quoted hv).append (level_of_spaces hgap₄)
      simpa using hname.append (hbetween.append hvalue)

theorem level_of_writesFields {fields : List (Text × Text)} {u : Text}
    (h : WritesFields fields u) : Level u := by
  induction h with
  | one hfield => exact level_of_writesField hfield
  | more hfield _ ih =>
      have hcomma : Level [','] := .of_plain (forall_mem_of_all (by decide))
      exact (level_of_writesField hfield).append (hcomma.append ih)

/-- The object is found as the first one behind a text without opening braces. -/
theorem firstObject?_embedded {fields : List (Text × Text)} {before json after : Text}
    (hjson : WritesObject fields json) (hbrace : '\x7b' ∉ before) :
    firstObject? (before ++ json ++ after) = some json := by
  obtain ⟨u, hfields, rfl⟩ := hjson
  have hdrop : (before ++ '\x7b' :: (u ++ ['\x7d']) ++ after).dropWhile (· != '\x7b') =
      '\x7b' :: (u ++ ['\x7d']) ++ after := by
    rw [List.append_assoc, List.dropWhile_append_of_pos]
    · rfl
    · intro c hc
      simpa using fun heq : c = '\x7b' => hbrace (heq ▸ hc)
  rw [firstObject?, hdrop]
  have hlevel := level_of_writesFields hfields 1 ('\x7d' :: after)
  simp [closeBraces?, hlevel]

/-! ## Fields -/

/-- The fields of an object with a statement and perhaps an explanation. -/
def objectFields (sql : Text) (explanation : Option Text) : List (Text × Text) :=
  ("sql".toList, sql) :: (explanation.map fun e => ("explanation".toList, e)).toList

/-- The explanation of a reply: the one given, without the blanks around it, unless it is blank. -/
def shownExplanation (explanation : Option Text) : Text :=
  if Text.trim (explanation.getD []) = [] then defaultExplanation
  else Text.trim (explanation.getD [])

theorem ofFields_some {sql : Text} (hsql : Text.trim sql ≠ []) (explanation : Option Text) :
    ofFields (some sql) explanation = some ⟨Text.trim sql, shownExplanation explanation⟩ := by
  have hblank : Text.trim [] = [] := rfl
  cases explanation with
  | none => simp [ofFields, shownExplanation, Option.filter_some, hsql, hblank]
  | some e =>
      by_cases he : Text.trim e = [] <;>
        simp [ofFields, shownExplanation, Option.filter_some, hsql, he]

/-- The members that bring an explanation, when there is one. -/
inductive Explains : Option Text → List (Text × Content) → Prop
  | text (e : Text) : Explains (some e) [("explanation".toList, .text e)]
  | null : Explains none [("explanation".toList, .null)]
  | absent : Explains none []

/-- Members that bring a statement and perhaps an explanation, in any order and among any others. -/
def BringsReply (sql : Text) (explanation : Option Text) (members : List (Text × Content)) : Prop :=
  ∃ told others, Explains explanation told ∧
    (∀ member ∈ others, member.1 ∉ ["sql".toList, "explanation".toList]) ∧
      members.Perm (("sql".toList, .text sql) :: (told ++ others))

/-- The values of a reply are read from its object in whatever order they stand. -/
theorem ofObject?_isObjectOf {sql : Text} {explanation : Option Text}
    {members : List (Text × Content)} {json : Text} (h : BringsReply sql explanation members)
    (hjson : IsObjectOf members json) : ofObject? json = ofFields (some sql) explanation := by
  obtain ⟨told, others, htold, hothers, hmembers⟩ := h
  let known := fun member : Text × Content =>
    ["sql".toList, "explanation".toList].contains member.1
  have hknown : ∀ member, known member = false → ∀ slot ∈ slots, member.1 ∉ slot.names := by
    intro member hmember
    simpa [known, slots] using hmember
  have hfilter : (members.filter known).Perm (("sql".toList, .text sql) :: told) := by
    have hnone : others.filter known = [] := by
      rw [List.filter_eq_nil_iff]
      intro member hmember
      simpa [known] using hothers member hmember
    have hall : told.filter known = told := by
      cases htold <;> rfl
    have hperm := hmembers.filter known
    rwa [List.filter_cons_of_pos rfl, List.filter_append, hall, hnone, List.append_nil] at hperm
  have hread : ∀ values, (members.filter known).foldlM (takeMember slots)
      (slots.map fun _ => none) = some values → readWholeRecord slots json = .ok values := by
    intro values hvalues
    exact hjson.readWholeRecord ((foldlM_takeMember_filter hknown members _).trans hvalues)
  rw [ofObject?]
  cases htold with
  | text e =>
      rw [hread [some (.text sql), some (.text e)]]
      · rfl
      · rcases List.perm_pair.1 hfilter with heq | heq <;> rw [heq] <;> rfl
  | null =>
      rw [hread [some (.text sql), some .null]]
      · rfl
      · rcases List.perm_pair.1 hfilter with heq | heq <;> rw [heq] <;> rfl
  | absent =>
      rw [hread [some (.text sql), none]]
      · rfl
      · rw [List.perm_singleton.1 hfilter]
        rfl

theorem isObjectOf_writesObject {fields : List (Text × Text)} {json : Text}
    (h : WritesObject fields json) : IsObjectOf (fields.map fun f => (f.1, .text f.2)) json := by
  have hfield : ∀ {f : Text × Text} {u : Text}, WritesField f u →
      WritesMember (f.1, .text f.2) u := by
    rintro f u ⟨hname, hvalue, hgap₁, hgap₂, hgap₃, hgap₄⟩
    have hmember := WritesMember.mk hname (.text hvalue) hgap₁ hgap₂ hgap₃ hgap₄
    simpa using hmember
  obtain ⟨u, hfields, rfl⟩ := h
  refine ⟨u, ?_, rfl⟩
  induction hfields with
  | one h => exact .one (hfield h)
  | more h _ ih => exact .more (hfield h) ih

theorem ofObject?_writesObject {sql : Text} {explanation : Option Text}
    {fields : List (Text × Text)} {json : Text}
    (hfields : fields.Perm (objectFields sql explanation))
    (hjson : WritesObject fields json) : ofObject? json = ofFields (some sql) explanation := by
  have hmap := hfields.map fun f => (f.1, Content.text f.2)
  refine ofObject?_isObjectOf ?_ (isObjectOf_writesObject hjson)
  cases explanation with
  | none => exact ⟨[], [], .absent, by simp, hmap⟩
  | some e => exact ⟨[_], [], .text e, by simp, hmap⟩

end LotSearch.Reply
