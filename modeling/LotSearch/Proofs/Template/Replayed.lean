import LotSearch.Proofs.Template.Settled
import LotSearch.Template.Resolved

/-!
# Resolving a template again

The parameters that a template was resolved with are recorded with the search.  Each of them
settles itself when it comes from the caller, except a default that does not have its declared
type: coming from the caller it is brought to the type, or refused.
-/

namespace LotSearch

/-! ## One parameter -/

namespace Parameter

variable {p : Parameter} {supplied o : Option Json}

/-- What a parameter took is what it takes again when it holds it. -/
theorem Takes.again (h : p.Takes supplied o) (hfits : p.DefaultFits supplied) :
    p.Takes (o.or supplied) o := by
  have hgiven : ∀ v, p.type.Admits v → p.Takes (some v) (some v) := fun v hv =>
    .given (present_eq_some hv.isNull) (coerce?_eq_self hv)
  cases h with
  | given hu hv => exact hgiven _ (admits_of_coerce? hv)
  | @byDefault v hu hv =>
      cases hnull : v.isNull with
      | true => exact .byDefault (present_null hnull) hv
      | false => exact hgiven v (hfits hu v hv hnull)
  | unset hu hv hrequired => exact .unset hu hv hrequired

/-- A value that is not `null` and settles itself has the declared type. -/
theorem admits_of_takes {v : Json} (h : p.Takes (some v) o) (ho : o.or (some v) = some v)
    (hnull : v.isNull = false) : p.type.Admits v := by
  have hpresent : present (some v) ≠ none := by
    rw [present_eq_some hnull]
    exact Option.some_ne_none v
  cases h with
  | given _ hw =>
      obtain rfl := Option.some.inj ho
      exact admits_of_coerce? hw
  | byDefault hu _ => exact absurd hu hpresent
  | unset hu _ _ => exact absurd hu hpresent

end Parameter

/-! ## A whole schema -/

namespace Schema

open Parameter Json

variable {schema : Schema} {supplied values : Fields}

/-- Values are kept when every declared parameter that is settled holds what settles it. -/
theorem validate_eq_self (h : ∀ name p, (name, p) ∈ schema →
    ∃ o, p.Takes (values.get? name) o ∧ (∀ v ∈ o, p.Allows v) ∧
      o.or (values.get? name) = values.get? name) : schema.validate values = .ok values := by
  induction schema with
  | nil => rfl
  | cons entry schema ih =>
      obtain ⟨name, p⟩ := entry
      obtain ⟨o, htakes, hallows, hget⟩ := h name p List.mem_cons_self
      have hrest := ih fun name p hmem => h name p (List.mem_cons_of_mem _ hmem)
      rw [validate, settle_eq_ok_iff.2 ⟨htakes, hallows⟩]
      cases o with
      | none => exact hrest
      | some v =>
          change validate schema (values.insert name v) = _
          rw [Fields.insert_eq_self hget.symm]
          exact hrest

theorem validate_again_iff (hdistinct : schema.Distinct)
    (h : schema.validate supplied = .ok values) :
    schema.validate values = .ok values ↔ schema.DefaultsFit supplied := by
  constructor
  · intro hagain name p hmem hu d hd hnull
    have hvalue := get?_of_default hdistinct h hmem hu hd
    obtain ⟨o, htakes, -, hget⟩ := takes_of_validate hdistinct hagain hmem
    rw [hvalue] at htakes hget
    exact admits_of_takes htakes hget.symm hnull
  · intro hfit
    apply validate_eq_self
    intro name p hmem
    obtain ⟨o, htakes, hallows, hget⟩ := takes_of_validate hdistinct h hmem
    refine ⟨o, ?_, hallows, ?_⟩
    · rw [hget]
      exact htakes.again (hfit name p hmem)
    · rw [hget]
      cases o with
      | none => rfl
      | some v => rfl

end Schema

namespace Template

theorem resolve_eq_ok_iff {t : Template} {supplied : Json.Fields} {r : Resolved} :
    t.resolve supplied = .ok r ↔
      t.schema.validate supplied = .ok r.parameters ∧
        substitute t.sql r.parameters = .ok r.sql := by
  constructor
  · intro h
    simp only [resolve, bind, Except.bind] at h
    split at h
    · cases h
    · next hvalidate =>
      split at h
      · cases h
      · next hsubstitute =>
        cases h
        exact ⟨hvalidate, hsubstitute⟩
  · rintro ⟨hvalidate, hsubstitute⟩
    simp only [resolve, bind, Except.bind, hvalidate, hsubstitute]
    rfl

/-- A template that was resolved is resolved in the same way by its settled parameters exactly when
the defaults in use have their declared types. -/
theorem resolve_parameters_iff {t : Template} {supplied : Json.Fields} {r : Resolved}
    (hdistinct : t.schema.Distinct) (h : t.resolve supplied = .ok r) :
    t.resolve r.parameters = .ok r ↔ t.schema.DefaultsFit supplied := by
  obtain ⟨hvalidate, hsubstitute⟩ := resolve_eq_ok_iff.1 h
  rw [← Schema.validate_again_iff hdistinct hvalidate, resolve_eq_ok_iff]
  exact and_iff_left hsubstitute

def largeLots : Template where
  id := "1".toList
  name := "Large lots".toList
  description := none
  category := none
  sql := "SELECT bbl FROM properties WHERE lotarea > \x7b\x7bmin_area\x7d\x7d".toList
  schema := [("min_area".toList, ⟨.number, false, none, some (.number (.whole 2500)), none⟩),
    ("zone".toList, ⟨.string, false, some [.text "2".toList], none, none⟩)]

/-- The zone is brought to its type, and the area is the default. -/
def largeLotsSupplied : Json.Fields := [("zone".toList, .number (.whole 2))]

def largeLotsResolved : Resolved where
  sql := "SELECT bbl FROM properties WHERE lotarea > 2500".toList
  parameters := [("min_area".toList, .number (.whole 2500)), ("zone".toList, .text "2".toList)]

theorem resolve_parameters_largeLots :
    largeLots.schema.Distinct ∧
      largeLots.resolve largeLotsSupplied = .ok largeLotsResolved ∧
      largeLots.schema.DefaultsFit largeLotsSupplied ∧
      largeLots.resolve largeLotsResolved.parameters = .ok largeLotsResolved := by
  have hdistinct : largeLots.schema.Distinct := by decide
  have hresolve : largeLots.resolve largeLotsSupplied = .ok largeLotsResolved := by cbv
  have hfit : largeLots.schema.DefaultsFit largeLotsSupplied := by
    intro name p hmem _ d hd _
    simp only [largeLots, List.mem_cons, Prod.mk.injEq, List.not_mem_nil, or_false] at hmem
    rcases hmem with ⟨-, rfl⟩ | ⟨-, rfl⟩
    · obtain rfl := Option.some.inj hd
      trivial
    · cases hd
  exact ⟨hdistinct, hresolve, hfit, (resolve_parameters_iff hdistinct hresolve).2 hfit⟩

/-- Its default is written in quotes, and loses them when it is supplied. -/
def quotedLots : Template :=
  { largeLots with
    schema := [("min_area".toList, ⟨.number, false, none, some (.text "2500".toList), none⟩)] }

theorem not_resolve_parameters_quotedLots :
    ¬ ∀ r, quotedLots.resolve [] = .ok r → quotedLots.resolve r.parameters = .ok r := by
  intro h
  have hfirst : quotedLots.resolve [] =
      .ok ⟨"SELECT bbl FROM properties WHERE lotarea > '2500'".toList,
        [("min_area".toList, .text "2500".toList)]⟩ := by cbv
  have hagain : quotedLots.resolve [("min_area".toList, .text "2500".toList)] =
      .ok ⟨"SELECT bbl FROM properties WHERE lotarea > 2500".toList,
        [("min_area".toList, .number (.whole 2500))]⟩ := by cbv
  have hsame := Except.ok.inj (hagain.symm.trans (h _ hfirst))
  have hlength := congrArg (fun r : Resolved => r.sql.length) hsame
  simp at hlength

end Template

end LotSearch
