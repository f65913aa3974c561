import LotSearch.Proofs.Json.Fields
import LotSearch.Proofs.Template.Pointwise

/-!
# Declarations as they are read

The fields of an object are set one after another, each at the place of its name, so when an object
has been read its fields are sorted.  The parameters that they declare are then sorted as well.
-/

namespace LotSearch

theorem Text.precedes_of_not_precedes {s t : Text} (hne : s ≠ t) (h : precedes s t = false) :
    precedes t s = true := by
  induction s generalizing t with
  | nil =>
      cases t with
      | nil => exact absurd rfl hne
      | cons d t => cases h
  | cons c s ih =>
      cases t with
      | nil => rfl
      | cons d t =>
          rw [precedes] at h ⊢
          rcases lt_trichotomy c.toNat d.toNat with hlt | heq | hgt
          · simp [hlt] at h
          · obtain rfl : c = d := Char.toNat_inj.1 heq
            have hrest : s ≠ t := fun heq => hne (heq ▸ rfl)
            simp only [lt_irrefl, if_false] at h ⊢
            exact ih hrest h
          · simp [hgt]

namespace Json

namespace Fields

/-- The names stand in the order of their octets, each once. -/
def Sorted (fields : Fields) : Prop :=
  (fields.map Prod.fst).Pairwise fun s t => Utf8.encode s < Utf8.encode t

variable {fields : Fields} {name n : Text} {value : Json}

theorem map_fst_replace (name : Text) (value : Json) (fields : Fields) :
    (fields.replace name value).map Prod.fst = fields.map Prod.fst := by
  induction fields with
  | nil => rfl
  | cons field fields ih =>
      rw [replace]
      split_ifs <;> simp [ih]

theorem mem_map_fst_place :
    n ∈ (fields.place name value).map Prod.fst ↔ n = name ∨ n ∈ fields.map Prod.fst := by
  induction fields with
  | nil => simp [place]
  | cons field fields ih =>
      rw [place]
      split_ifs
      · simp
      · rw [List.map_cons, List.mem_cons, ih, List.map_cons, List.mem_cons, or_left_comm]

theorem Sorted.place (h : fields.Sorted) (hnew : fields.get? name = none) :
    (fields.place name value).Sorted := by
  induction fields with
  | nil => exact List.pairwise_singleton _ _
  | cons field fields ih =>
      obtain ⟨first, v⟩ := field
      obtain ⟨hfirst, hrest⟩ := List.pairwise_cons.1 h
      have hne : first ≠ name := fun heq => by simp [get?, heq] at hnew
      have hlater : Fields.get? name fields = none := by simpa [get?, hne] using hnew
      rw [Fields.place]
      split_ifs with hprecedes
      · have hlt := Text.precedes_iff_encode_lt.1 hprecedes
        refine List.pairwise_cons.2 ⟨List.forall_mem_cons.2 ⟨hlt, fun n hn => ?_⟩, h⟩
        exact hlt.trans (hfirst n hn)
      · have hlt := Text.precedes_iff_encode_lt.1
          (Text.precedes_of_not_precedes hne.symm (by simpa using hprecedes))
        refine List.pairwise_cons.2 ⟨fun n hn => ?_, ih hrest hlater⟩
        rcases mem_map_fst_place.1 hn with rfl | hn
        · exact hlt
        · exact hfirst n hn

theorem Sorted.insert (h : fields.Sorted) (name : Text) (value : Json) :
    (fields.insert name value).Sorted := by
  rw [Fields.insert]
  split_ifs with hsome
  · rw [Sorted, map_fst_replace]
    exact h
  · exact h.place (by simpa using hsome)

end Fields

variable {value : Text → Reading (Json × Text)} {fields fields' : Fields} {name t rest : Text}

theorem sorted_of_readNamed (h : readNamed value fields name t = .ok (fields', rest))
    (hfields : fields.Sorted) : fields'.Sorted := by
  obtain ⟨r, -, h⟩ := bind_eq_ok_iff.1 h
  obtain ⟨⟨v, r'⟩, -, h⟩ := bind_eq_ok_iff.1 h
  cases h
  exact hfields.insert _ _

/-- The fields of an object that is read are sorted. -/
theorem sorted_of_readValue {depth : Nat} (h : readValue depth t = .ok (.object fields, rest)) :
    fields.Sorted := by
  rw [readValue.eq_def] at h
  split at h
  · simp only [bind, Except.bind, pure, Except.pure] at h
    split at h <;> cases h
  · split at h
    · cases h
    · simp only [bind, Except.bind, pure, Except.pure] at h
      split at h <;> cases h
  · split at h
    · cases h
    · simp only [bind, Except.bind, pure, Except.pure] at h
      split at h
      · cases h
      · next hread =>
        cases h
        exact kept_of_readFields sorted_of_readNamed hread List.Pairwise.nil
  -- words and numbers are no objects
  all_goals
    simp only [bind, Except.bind, pure, Except.pure] at h
    split at h <;> cases h

end Json

namespace Schema

open Json

theorem map_fst_of_ofFields? {fields : Fields} {schema : Schema}
    (h : ofFields? fields = some schema) : schema.map Prod.fst = fields.map Prod.fst := by
  induction fields generalizing schema with
  | nil =>
      cases h
      rfl
  | cons field fields ih =>
      obtain ⟨p, -, hrest⟩ := Option.bind_eq_some_iff.1 h
      obtain ⟨schema', hschema, heq⟩ := Option.bind_eq_some_iff.1 hrest
      cases heq
      rw [List.map_cons, List.map_cons, ih hschema]

/-- Whatever declarations are read from a text, they stand in the order of their names. -/
theorem sorted_of_read? {depth : Nat} {t : Text} {json : Json} {schema : Schema}
    (hread : Json.read? depth t = some json) (h : ofJson? (some json) = some schema) :
    schema.Sorted := by
  cases json with
  | null =>
      cases h
      exact List.Pairwise.nil
  | object fields =>
      have hsorted : Fields.Sorted fields := by
        rw [Json.read?] at hread
        split at hread
        · next hvalue =>
          split_ifs at hread
          cases hread
          exact sorted_of_readValue hvalue
        · cases hread
      rw [Sorted, map_fst_of_ofFields? h]
      exact hsorted
  | _ => cases h

end Schema

end LotSearch
