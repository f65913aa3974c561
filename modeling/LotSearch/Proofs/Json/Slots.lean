import LotSearch.Json.Record
import LotSearch.Proofs.Json.Fields

/-!
# The types of slots

The slots of a record have types.  Whatever text a record is read from, and in whichever of its two
forms, a slot that was filled holds a value of its type.
-/

namespace LotSearch.Json

/-- Whether a slot of a type can hold a value. -/
def SlotType.Holds : SlotType → Json → Prop
  | .text, v => ∃ t, v = .text t
  | .optionalText, v => v = .null ∨ ∃ t, v = .text t
  | .integer, v => ∃ n, v = .number (.whole n) ∧ minInt64 ≤ n ∧ n ≤ maxInt64
  | .object, v => ∃ fields, v = .object fields

/-- Whether every value stands in a slot of its type. -/
def HaveTypes (slots : List Slot) (values : SlotValues) : Prop :=
  ∀ (i : Nat) (slot : Slot) (v : Json),
    slots[i]? = some slot → values[i]? = some (some v) → slot.type.Holds v

theorem refuse_ne_ok {α : Type} {t rest : Text} {x : α} : refuse t ≠ .ok (x, rest) := by
  intro h
  unfold refuse at h
  split at h
  case h_2 | h_3 => cases h
  all_goals
    dsimp only at h
    split at h <;> cases h

theorem holds_of_readSlot {depth : Nat} {type : SlotType} {t rest : Text} {v : Json}
    (h : readSlot depth type t = .ok (v, rest)) : type.Holds v := by
  rw [readSlot.eq_def] at h
  split at h
  · obtain ⟨⟨value, r⟩, -, h⟩ := bind_eq_ok_iff.1 h
    cases h
    exact ⟨value, rfl⟩
  · obtain ⟨⟨value, r⟩, -, h⟩ := bind_eq_ok_iff.1 h
    cases h
    exact .inr ⟨value, rfl⟩
  · obtain ⟨r, -, h⟩ := bind_eq_ok_iff.1 h
    cases h
    exact .inl rfl
  · split at h
    · cases h
    · obtain ⟨⟨fields, r⟩, -, h⟩ := bind_eq_ok_iff.1 h
      cases h
      exact ⟨fields, rfl⟩
  · split_ifs at h with hdigit
    · obtain ⟨⟨n, r⟩, -, h⟩ := bind_eq_ok_iff.1 h
      cases n with
      | real x => cases h
      | whole n =>
          simp only at h
          split_ifs at h with hrange
          cases h
          exact ⟨n, rfl, by simpa using hrange⟩
    · exact absurd h refuse_ne_ok
  · exact absurd h refuse_ne_ok

theorem haveTypes_of_readSlotField {slots : List Slot} {depth : Nat} {values values' : SlotValues}
    {name t rest : Text}
    (h : readSlotField slots depth values name t = .ok (values', rest))
    (hvalues : HaveTypes slots values) : HaveTypes slots values' := by
  rw [readSlotField] at h
  split at h
  · obtain ⟨r, -, h⟩ := bind_eq_ok_iff.1 h
    obtain ⟨⟨_, r'⟩, -, h⟩ := bind_eq_ok_iff.1 h
    cases h
    exact hvalues
  · next i hi =>
    split at h
    · next slot hempty hslot =>
      obtain ⟨r, -, h⟩ := bind_eq_ok_iff.1 h
      obtain ⟨⟨v, r'⟩, hread, h⟩ := bind_eq_ok_iff.1 h
      cases h
      intro j slot' w hslot' hw
      rw [List.getElem?_set] at hw
      split_ifs at hw with hij hlt
      · subst hij
        obtain rfl := Option.some.inj (Option.some.inj hw)
        obtain rfl := Option.some.inj (hslot.symm.trans hslot')
        exact holds_of_readSlot hread
      · exact hvalues j slot' w hslot' hw
    · cases h

theorem HaveTypes.cons {slots : List Slot} {slot : Slot} {values : SlotValues} {v : Json}
    (hv : slot.type.Holds v) (h : HaveTypes slots values) :
    HaveTypes (slot :: slots) (some v :: values) := by
  intro i slot' w hslot hw
  cases i with
  | zero =>
      obtain rfl := Option.some.inj hslot
      obtain rfl := Option.some.inj (Option.some.inj hw)
      exact hv
  | succ i => exact h i slot' w hslot hw

theorem haveTypes_of_readSlotItems {depth : Nat} {isFirst : Bool} {slots : List Slot}
    {values : SlotValues} {t rest : Text}
    (h : readSlotItems depth isFirst slots t = .ok (values, rest)) : HaveTypes slots values := by
  induction slots generalizing isFirst t values rest with
  | nil =>
      intro i slot v hslot
      simp at hslot
  | cons slot slots ih =>
      rw [readSlotItems] at h
      split at h
      case h_1 =>
        -- the list ends early, and the slots that are left stay empty
        cases h
        intro i slot' v hslot hv
        rw [List.getElem?_replicate] at hv
        split_ifs at hv
        cases hv
      all_goals
        split_ifs at h
        obtain ⟨⟨v, r⟩, hread, h⟩ := bind_eq_ok_iff.1 h
        obtain ⟨⟨vs, r'⟩, hmore, h⟩ := bind_eq_ok_iff.1 h
        cases h
        exact (ih hmore).cons (holds_of_readSlot hread)

/-- Whatever text a record is read from, its slots hold values of their types. -/
theorem haveTypes_of_readRecordWith {quoted : Text → Reading (Text × Text)} {slots : List Slot}
    {values : SlotValues} {t rest : Text}
    (h : readRecordWith quoted slots t = .ok (values, rest)) : HaveTypes slots values := by
  rw [readRecordWith] at h
  split at h
  · apply kept_of_readFields haveTypes_of_readSlotField h
    intro i slot v hslot hv
    rw [List.getElem?_map, hslot] at hv
    cases hv
  · exact haveTypes_of_readSlotItems h
  · exact absurd h refuse_ne_ok

end LotSearch.Json
