import LotSearch.Json.Record
import LotSearch.Proofs.Json.Syntax

/-!
# Records of texts

A record whose slots are texts is read from each way to write its object: the members may stand in
any order, with any spaces and escapes, a text that may be missing may be `null`, and members with
other names may hold any values.
-/

namespace LotSearch.Json

/-- What a member of an object holds, as far as a slot for a text is concerned. -/
inductive Content where
  | text (value : Text)
  | null
  | other
deriving DecidableEq

namespace Content

/-- The value that a slot takes. -/
def value? : Content → Option Json
  | text value => some (.text value)
  | null => some .null
  | other => none

def fits : Content → SlotType → Bool
  | text _, .text => true
  | text _, .optionalText => true
  | null, .optionalText => true
  | _, _ => false

end Content

inductive WritesContent : Content → Text → Prop
  | text {value v : Text} (h : Writes value v) : WritesContent (.text value) ('"' :: (v ++ ['"']))
  | null : WritesContent .null "null".toList
  | other {v : Text} (h : IsJson .value v) : WritesContent .other v

/-- The ways to write a member: its quoted name, a colon and what it holds, with spaces around
them. -/
inductive WritesMember : Text × Content → Text → Prop
  | mk {name n v gap₁ gap₂ gap₃ gap₄ : Text} {content : Content} (hname : Writes name n)
      (hcontent : WritesContent content v) (hgap₁ : Spaces gap₁) (hgap₂ : Spaces gap₂)
      (hgap₃ : Spaces gap₃) (hgap₄ : Spaces gap₄) :
      WritesMember (name, content)
        (gap₁ ++ '"' :: (n ++ '"' :: (gap₂ ++ ':' :: (gap₃ ++ (v ++ gap₄)))))

/-- The ways to write one or more members, with commas between them. -/
inductive WritesMembers : List (Text × Content) → Text → Prop
  | one {member : Text × Content} {u : Text} (hmember : WritesMember member u) :
      WritesMembers [member] u
  | more {member : Text × Content} {members : List (Text × Content)} {u v : Text}
      (hmember : WritesMember member u) (hmembers : WritesMembers members v) :
      WritesMembers (member :: members) (u ++ ',' :: v)

/-- Whether a text is an object with the members, in their order. -/
def IsObjectOf (members : List (Text × Content)) (t : Text) : Prop :=
  ∃ u, WritesMembers members u ∧ t = '\x7b' :: (u ++ ['\x7d'])

theorem WritesContent.isJson {content : Content} {v : Text} (h : WritesContent content v) :
    IsJson .value v := by
  cases h with
  | text h => exact .text h
  | null => exact .word (by simp)
  | other h => exact h

/-! ## Slots -/

/-- The values of slots with what a member holds in the first slot that has its name. -/
def takeMember (slots : List Slot) (values : SlotValues) (member : Text × Content) :
    Option SlotValues :=
  match slots.findIdx? fun slot => slot.names.contains member.1 with
  | none => some values
  | some i =>
      match values[i]?, slots[i]?, member.2.value? with
      | some none, some slot, some v =>
          if member.2.fits slot.type then some (values.set i (some v)) else none
      | _, _, _ => none

theorem readSlot_append {content : Content} {v : Text} (h : WritesContent content v)
    {type : SlotType} (hfits : content.fits type = true) {value : Json}
    (hvalue : content.value? = some value) {gap : Text} (hgap : Spaces gap) (depth : Nat)
    (rest : Text) : readSlot depth type (gap ++ (v ++ rest)) = .ok (value, rest) := by
  cases h with
  | @text value v hv =>
      cases hvalue
      have hskip : skipSpace (gap ++ ('"' :: (v ++ ['"']) ++ rest)) =
          '"' :: (v ++ '"' :: rest) := by
        rw [skipSpace_append hgap]
        simp [skipSpace, isSpace]
      have hquoted := hv.readQuoted_append rest
      cases type with
      | text => simp only [readSlot, hskip, hquoted, bind, Except.bind, pure, Except.pure]
      | optionalText => simp only [readSlot, hskip, hquoted, bind, Except.bind, pure, Except.pure]
      | _ => cases hfits
  | null =>
      cases hvalue
      have hskip : skipSpace (gap ++ ("null".toList ++ rest)) = 'n' :: ("ull".toList ++ rest) := by
        rw [skipSpace_append hgap]
        rfl
      have hword : readWord "ull".toList ("ull".toList ++ rest) = .ok rest := readWord_append _ _
      cases type with
      | optionalText => simp only [readSlot, hskip, hword, bind, Except.bind, pure, Except.pure]
      | _ => cases hfits
  | other => cases hvalue

theorem readsField_of_writesMember {slots : List Slot} {values values' : SlotValues}
    {member : Text × Content} {u : Text} (h : WritesMember member u)
    (htake : takeMember slots values member = some values') (depth : Nat) :
    ReadsField readQuoted (readSlotField slots depth) values values' u := by
  intro rest hrest
  cases h with
  | @mk name n v gap₁ gap₂ gap₃ gap₄ content hname hcontent hgap₁ hgap₂ hgap₃ hgap₄ =>
      have hread := readName_append hgap₁ (hname.readQuoted_append
        (gap₂ ++ ':' :: (gap₃ ++ (v ++ (gap₄ ++ rest)))))
      refine ⟨name, _, gap₄, by simpa using hread, hgap₄, ?_, ?_⟩
      · exact ⟨gap₁ ++ '"' :: (n ++ '"' :: (gap₂ ++ ':' :: (gap₃ ++ v))), by simp⟩
      · simp only [takeMember] at htake
        split at htake
        · next hnone =>
          cases htake
          have hlength : v.length ≤ (gap₃ ++ (v ++ (gap₄ ++ rest))).length := by
            simp only [List.length_append]
            omega
          have hskip := hcontent.isJson.skips hlength _ (hrest.append hgap₄)
          rw [← skipValue_append hgap₃] at hskip
          simp only [readSlotField, hnone, readColon_append hgap₂, hskip, bind, Except.bind, pure,
            Except.pure]
        · next i hi =>
          split at htake
          · next slot value hempty hslot hvalue =>
            split_ifs at htake with hfits
            cases htake
            have hslot_read := readSlot_append hcontent hfits hvalue hgap₃ depth (gap₄ ++ rest)
            simp only [readSlotField, hi, hempty, hslot, readColon_append hgap₂, hslot_read, bind,
              Except.bind, pure, Except.pure]
          · cases htake

theorem WritesMembers.reads {slots : List Slot} {members : List (Text × Content)} {u : Text}
    (h : WritesMembers members u) {values values' : SlotValues}
    (hvalues : members.foldlM (takeMember slots) values = some values') (depth : Nat) :
    ReadsFields readQuoted (readSlotField slots depth) values values' u := by
  induction h generalizing values with
  | one hmember =>
      obtain ⟨values₁, htake, hrest⟩ := Option.bind_eq_some_iff.1 hvalues
      cases hrest
      exact (readsField_of_writesMember hmember htake depth).one
  | more hmember _ ih =>
      obtain ⟨values₁, htake, hrest⟩ := Option.bind_eq_some_iff.1 hvalues
      exact (ih hrest).more (readsField_of_writesMember hmember htake depth)

/-- A record of texts is read from each way to write its members. -/
theorem IsObjectOf.readWholeRecord {slots : List Slot} {members : List (Text × Content)} {t : Text}
    {values : SlotValues} (h : IsObjectOf members t)
    (hvalues : members.foldlM (takeMember slots) (slots.map fun _ => none) = some values) :
    readWholeRecord slots t = .ok values := by
  obtain ⟨u, hmembers, rfl⟩ := h
  have hread := (hmembers.reads hvalues (maxNesting - 1)).readFields []
  have hrecord : readRecord slots ('\x7b' :: (u ++ ['\x7d'])) = .ok (values, []) := by
    rw [readRecord, readRecordWith, skipSpace_cons (by decide)]
    exact hread
  rw [Json.readWholeRecord, hrecord]
  rfl

/-- Members without a slot can be left out. -/
theorem foldlM_takeMember_filter {slots : List Slot} {p : Text × Content → Bool}
    (hp : ∀ member, p member = false → ∀ slot ∈ slots, member.1 ∉ slot.names)
    (members : List (Text × Content)) (values : SlotValues) :
    members.foldlM (takeMember slots) values =
      (members.filter p).foldlM (takeMember slots) values := by
  have hskip : ∀ values member, p member = false →
      takeMember slots values member = some values := by
    intro values member hmember
    have hnone : (slots.findIdx? fun slot => slot.names.contains member.1) = none := by
      rw [List.findIdx?_eq_none_iff]
      intro slot hslot
      simpa using hp member hmember slot hslot
    rw [takeMember, hnone]
  induction members generalizing values with
  | nil => rfl
  | cons member members ih =>
      by_cases hmember : p member = true
      · rw [List.filter_cons_of_pos hmember, List.foldlM_cons, List.foldlM_cons]
        exact congrArg _ (funext ih)
      · rw [List.filter_cons_of_neg hmember, List.foldlM_cons,
          hskip values member (by simpa using hmember)]
        exact ih values

end LotSearch.Json
