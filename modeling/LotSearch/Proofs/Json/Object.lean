import LotSearch.Proofs.Json.Fields
import LotSearch.Proofs.Json.Quoted

/-!
# Objects of texts

An object whose values are texts may be written with any spaces between its tokens and with any
escapes in its names and values.  The printer writes it in one of these ways.
-/

namespace LotSearch.Json

/-- The ways to write a field: its quoted name, a colon and its quoted value, with spaces around
them. -/
inductive WritesField : Text × Text → Text → Prop
  | mk {name value n v gap₁ gap₂ gap₃ gap₄ : Text} (hname : Writes name n)
      (hvalue : Writes value v) (hgap₁ : Spaces gap₁) (hgap₂ : Spaces gap₂)
      (hgap₃ : Spaces gap₃) (hgap₄ : Spaces gap₄) :
      WritesField (name, value)
        (gap₁ ++ '"' :: (n ++ '"' :: (gap₂ ++ ':' :: (gap₃ ++ '"' :: (v ++ '"' :: gap₄)))))

/-- The ways to write one or more fields, with commas between them. -/
inductive WritesFields : List (Text × Text) → Text → Prop
  | one {field : Text × Text} {u : Text} (hfield : WritesField field u) : WritesFields [field] u
  | more {field : Text × Text} {fields : List (Text × Text)} {u v : Text}
      (hfield : WritesField field u) (hfields : WritesFields fields v) :
      WritesFields (field :: fields) (u ++ ',' :: v)

/-- The ways to write an object with one or more fields whose values are texts. -/
def WritesObject (fields : List (Text × Text)) (t : Text) : Prop :=
  ∃ u, WritesFields fields u ∧ t = '\x7b' :: (u ++ ['\x7d'])

theorem WritesField.exists_quote {f : Text × Text} {u : Text} (h : WritesField f u) :
    ∃ gap n rest, Spaces gap ∧ Writes f.1 n ∧ u = gap ++ '"' :: (n ++ '"' :: rest) := by
  cases h with
  | mk hname _ hgap₁ _ _ _ => exact ⟨_, _, _, hgap₁, hname, rfl⟩

/-- Fields begin with the quoted name of one of them. -/
theorem WritesFields.exists_quote {fields : List (Text × Text)} {u : Text}
    (h : WritesFields fields u) : ∃ f ∈ fields, ∃ gap n rest, Spaces gap ∧ Writes f.1 n ∧
      u = gap ++ '"' :: (n ++ '"' :: rest) := by
  cases h with
  | @one f _ hfield => exact ⟨f, by simp, hfield.exists_quote⟩
  | @more f fields _ v hfield _ =>
      obtain ⟨gap, n, rest, hgap, hname, rfl⟩ := hfield.exists_quote
      exact ⟨f, by simp, gap, n, rest ++ ',' :: v, hgap, hname, by simp⟩

/-! ## What is printed -/

theorem writesField_write (name value : Text) :
    WritesField (name, value) (writeText name ++ ':' :: writeText value) := by
  have hnone : Spaces [] := fun _ hc => absurd hc List.not_mem_nil
  have hfield := WritesField.mk (writes_escape name) (writes_escape value) hnone hnone hnone hnone
  simpa [writeText] using hfield

/-- The printer writes an object of texts in one of the ways in which it may be written. -/
theorem writesObject_write {fields : List (Text × Text)} (h : fields ≠ []) :
    WritesObject fields
      (write (.object (fields.map fun f => (f.1, .text f.2)))) := by
  have hfields : WritesFields fields
      (writeFields (fields.map fun f => (f.1, .text f.2))) := by
    induction fields with
    | nil => exact absurd rfl h
    | cons field fields ih =>
        cases fields with
        | nil =>
            have hone := WritesFields.one (writesField_write field.1 field.2)
            simpa [writeFields, write] using hone
        | cons next fields =>
            have hmore := WritesFields.more (writesField_write field.1 field.2) (ih (by simp))
            simpa [writeFields, write] using hmore
  exact ⟨_, hfields, by simp [write]⟩

end LotSearch.Json
