import LotSearch.Proofs.Template.Settled
import LotSearch.Proofs.Text.ByteOrder

/-!
# Parameters one by one

Validation goes over the declared parameters in the order of their names and writes what settles
one of them into the values from which the next ones are read.  No name is declared twice, so what
is written under one name is never read under another: each parameter passes or fails by its own
supplied value alone, and the fault is that of the first one that fails.
-/

namespace LotSearch

/-! ## One parameter -/

namespace Parameter

/-- What a parameter is refused for, given its supplied value. -/
inductive Refuses (p : Parameter) (name : Text) (supplied : Option Json) : Fault → Prop
  | mismatch {u : Json} (hu : present supplied = some u) (hv : coerce? p.type u = none) :
      Refuses p name supplied (mismatch name p.type)
  | missing (hu : present supplied = none) (hv : p.default = none)
      (hrequired : p.required = true) : Refuses p name supplied (missing name)
  | notAllowed {v : Json} {allowed : List Json} (hv : p.Takes supplied (some v))
      (hallowed : p.allowed = some allowed) (hno : ∀ w ∈ allowed, v.same w = false) :
      Refuses p name supplied (notAllowed name allowed)

/-- Whether a supplied value passes the check of its parameter. -/
def Passes (p : Parameter) (supplied : Option Json) : Prop :=
  ∃ o, p.Takes supplied o ∧ ∀ v ∈ o, p.Allows v

/-- The supplied value brought to the declared type unless it is absent or `null`, else the default,
else what was supplied. -/
def held (p : Parameter) (supplied : Option Json) : Option Json :=
  match present supplied with
  | some v => coerce? p.type v
  | none => p.default.or supplied

variable {p : Parameter} {name : Text} {supplied o : Option Json} {fault : Fault}

theorem Takes.or_eq_held (h : p.Takes supplied o) : o.or supplied = p.held supplied := by
  cases h with
  | given hu hv => simp [held, hu, hv]
  | byDefault hu hv => simp [held, hu, hv]
  | unset hu hv _ => simp [held, hu, hv]

theorem refuses_of_unchecked (h : p.unchecked name supplied = .error fault) :
    p.Refuses name supplied fault := by
  unfold unchecked at h
  split at h
  · next hu =>
    split at h
    · cases h
    · next hv =>
      cases h
      exact .mismatch hu hv
  · next hu =>
    split at h
    · cases h
    · next hv =>
      split_ifs at h with hrequired
      cases h
      exact .missing hu hv hrequired

theorem settle_eq_error_iff :
    p.settle name supplied = .error fault ↔ p.Refuses name supplied fault := by
  constructor
  · intro h
    rw [settle_eq] at h
    split at h
    · next hvalue hallowed =>
      split_ifs at h with hany
      cases h
      exact .notAllowed ((unchecked_eq_ok_iff name).1 hvalue) hallowed (by simpa using hany)
    · exact refuses_of_unchecked h
  · intro h
    cases h with
    | mismatch hu hv => simp [settle, hu, hv]
    | missing hu hv hrequired => simp [settle, hu, hv, hrequired]
    | notAllowed hv hallowed hno =>
        rw [settle_eq, (unchecked_eq_ok_iff name).2 hv, hallowed]
        simpa using hno

theorem passes_iff (name : Text) : p.Passes supplied ↔ ∃ o, p.settle name supplied = .ok o := by
  simp only [Passes, settle_eq_ok_iff]

/-- A supplied value passes or is refused for one fault. -/
theorem not_passes_iff (name : Text) :
    ¬ p.Passes supplied ↔ ∃ fault, p.Refuses name supplied fault := by
  simp only [passes_iff name, ← settle_eq_error_iff]
  cases p.settle name supplied <;> simp

end Parameter

/-! ## A whole schema -/

namespace Schema

open Parameter Json

/-- The names are declared in the order of their octets, each once. -/
def Sorted (schema : Schema) : Prop :=
  (schema.map Prod.fst).Pairwise fun s t => Utf8.encode s < Utf8.encode t

instance (schema : Schema) : Decidable schema.Sorted :=
  inferInstanceAs (Decidable ((schema.map Prod.fst).Pairwise _))

theorem Sorted.distinct {schema : Schema} (h : schema.Sorted) : schema.Distinct := by
  refine List.Pairwise.imp (fun {s t} hlt => ?_) h
  rintro rfl
  exact lt_irrefl _ hlt

variable {schema : Schema} {supplied values : Fields} {fault : Fault}

/-- What settles one parameter is not seen under other names. -/
theorem exists_validate_cons {name : Text} {p : Parameter} {o : Option Json}
    (h : p.settle name (supplied.get? name) = .ok o) (schema : Schema) :
    ∃ rest, validate ((name, p) :: schema) supplied = schema.validate rest ∧
      ∀ other, other ≠ name → rest.get? other = supplied.get? other := by
  cases o with
  | none => exact ⟨supplied, by rw [validate, h], fun _ _ => rfl⟩
  | some v =>
      refine ⟨supplied.insert name v, by rw [validate, h], fun other hne => ?_⟩
      rw [Fields.get?_insert, if_neg hne]

/-- Validation fails at the first parameter that is refused. -/
theorem validate_eq_error_iff (hdistinct : schema.Distinct) :
    schema.validate supplied = .error fault ↔ ∃ before name p after,
      schema = before ++ (name, p) :: after ∧
        (∀ entry ∈ before, entry.2.Passes (supplied.get? entry.1)) ∧
        p.Refuses name (supplied.get? name) fault := by
  induction schema generalizing supplied with
  | nil => simp [validate]
  | cons entry schema ih =>
      obtain ⟨name, p⟩ := entry
      obtain ⟨hfresh, hrest⟩ := List.nodup_cons.1 hdistinct
      cases hsettle : p.settle name (supplied.get? name) with
      | error first =>
          have hvalidate : validate ((name, p) :: schema) supplied = .error first := by
            rw [validate, hsettle]
          have hrefuses := settle_eq_error_iff.1 hsettle
          constructor
          · intro h
            obtain rfl := Except.error.inj (hvalidate.symm.trans h)
            exact ⟨[], name, p, schema, rfl, by simp, hrefuses⟩
          · rintro ⟨before, other, q, after, hsplit, hbefore, hq⟩
            cases before with
            | nil =>
                cases hsplit
                obtain rfl := Except.error.inj (hsettle.symm.trans (settle_eq_error_iff.2 hq))
                exact hvalidate
            | cons entry before =>
                obtain ⟨rfl, -⟩ := List.cons.inj hsplit
                exact absurd (hbefore _ List.mem_cons_self) ((not_passes_iff name).2 ⟨_, hrefuses⟩)
      | ok o =>
          obtain ⟨rest, hvalidate, hget⟩ := exists_validate_cons hsettle schema
          have hsame : ∀ entry ∈ schema, rest.get? entry.1 = supplied.get? entry.1 :=
            fun entry hmem => hget _ fun heq => hfresh (List.mem_map.2 ⟨entry, hmem, heq⟩)
          have hpasses : p.Passes (supplied.get? name) := (passes_iff name).2 ⟨o, hsettle⟩
          rw [hvalidate, ih hrest]
          constructor
          · rintro ⟨before, other, q, after, rfl, hbefore, hq⟩
            rw [hsame (other, q) (by simp)] at hq
            refine ⟨(name, p) :: before, other, q, after, rfl, ?_, hq⟩
            refine List.forall_mem_cons.2 ⟨hpasses, fun entry hmem => ?_⟩
            rw [← hsame entry (List.mem_append_left _ hmem)]
            exact hbefore entry hmem
          · rintro ⟨before, other, q, after, hsplit, hbefore, hq⟩
            cases before with
            | nil =>
                cases hsplit
                exact absurd hpasses ((not_passes_iff name).2 ⟨fault, hq⟩)
            | cons entry before =>
                obtain ⟨rfl, rfl⟩ := List.cons.inj hsplit
                rw [← hsame (other, q) (by simp)] at hq
                refine ⟨before, other, q, after, rfl, fun entry hmem => ?_, hq⟩
                rw [hsame entry (List.mem_append_left _ hmem)]
                exact hbefore entry (List.mem_cons_of_mem _ hmem)

theorem exists_validate_iff (hdistinct : schema.Distinct) :
    (∃ values, schema.validate supplied = .ok values) ↔
      ∀ name p, (name, p) ∈ schema → p.Passes (supplied.get? name) := by
  constructor
  · rintro ⟨values, h⟩ name p hmem
    obtain ⟨o, htakes, hallows, -⟩ := takes_of_validate hdistinct h hmem
    exact ⟨o, htakes, hallows⟩
  · intro hpasses
    cases h : schema.validate supplied with
    | ok values => exact ⟨values, rfl⟩
    | error fault =>
        obtain ⟨before, name, p, after, rfl, -, hp⟩ := (validate_eq_error_iff hdistinct).1 h
        exact absurd (hpasses name p (by simp)) ((not_passes_iff name).2 ⟨fault, hp⟩)

theorem Sorted.forall_of_split {before after : Schema} {name : Text} {p : Parameter}
    (h : Sorted (before ++ (name, p) :: after)) :
    (∀ entry ∈ before, Utf8.encode entry.1 < Utf8.encode name) ∧
      ∀ entry ∈ after, Utf8.encode name < Utf8.encode entry.1 := by
  rw [Sorted, List.map_append, List.map_cons, List.pairwise_append, List.pairwise_cons] at h
  obtain ⟨-, ⟨hafter, -⟩, hbefore⟩ := h
  exact ⟨fun entry hmem => hbefore _ (List.mem_map_of_mem hmem) _ List.mem_cons_self,
    fun entry hmem => hafter _ (List.mem_map_of_mem hmem)⟩

/-- Each declared parameter passes or fails by its own supplied value, and holds what that value,
its default and its type make of it; the other values are kept.  When a parameter fails, the fault
is that of the first one that does, in the order of the octets of their names. -/
theorem validate_pointwise (hsorted : schema.Sorted) (supplied : Fields) :
    ((∃ values, schema.validate supplied = .ok values) ↔
      ∀ name p, (name, p) ∈ schema → p.Passes (supplied.get? name)) ∧
    (∀ values, schema.validate supplied = .ok values →
      (∀ name p, (name, p) ∈ schema → values.get? name = p.held (supplied.get? name)) ∧
      ∀ name, name ∉ schema.map Prod.fst → values.get? name = supplied.get? name) ∧
    ∀ fault, schema.validate supplied = .error fault ↔
      ∃ name p, (name, p) ∈ schema ∧ p.Refuses name (supplied.get? name) fault ∧
        ∀ other q, (other, q) ∈ schema → ¬ q.Passes (supplied.get? other) →
          other = name ∨ Utf8.encode name < Utf8.encode other := by
  have hdistinct := hsorted.distinct
  refine ⟨exists_validate_iff hdistinct, fun values h => ⟨fun name p hmem => ?_, fun name hname =>
    get?_validate_of_notMem h hname⟩, fun fault => ?_⟩
  · obtain ⟨o, htakes, -, hget⟩ := takes_of_validate hdistinct h hmem
    rw [hget, htakes.or_eq_held]
  rw [validate_eq_error_iff hdistinct]
  constructor
  · rintro ⟨before, name, p, after, rfl, hbefore, hp⟩
    refine ⟨name, p, by simp, hp, fun other q hmem hq => ?_⟩
    rcases List.mem_append.1 hmem with hmem | hmem
    · exact absurd (hbefore _ hmem) hq
    · rcases List.mem_cons.1 hmem with heq | hmem
      · exact .inl (congrArg Prod.fst heq)
      · exact .inr (hsorted.forall_of_split.2 _ hmem)
  · rintro ⟨name, p, hmem, hp, hleast⟩
    obtain ⟨before, after, rfl⟩ := List.append_of_mem hmem
    refine ⟨before, name, p, after, rfl, fun entry hentry => ?_, hp⟩
    have hlt := hsorted.forall_of_split.1 entry hentry
    by_contra hno
    rcases hleast entry.1 entry.2 (List.mem_append_left _ hentry) hno with heq | hgt
    · exact lt_irrefl _ (heq ▸ hlt)
    · exact lt_asymm hlt hgt

/-- The area is missing and the zone is not allowed; the name of the area comes first. -/
theorem validate_pointwise_lots :
    lots.Sorted ∧
      lots.validate [("zone".toList, .text "R7".toList)] = .error (missing "min_area".toList) ∧
      lotsSettled.get? "min_area".toList = some (.number (.whole 7500)) := by
  have hsorted : lots.Sorted := by decide
  have hvalidate : lots.validate lotsSupplied = .ok lotsSettled := by cbv
  have harea : ("min_area".toList, (⟨.number, true, none, none, none⟩ : Parameter)) ∈ lots := by
    simp [lots]
  have hfault := ((validate_pointwise hsorted [("zone".toList, .text "R7".toList)]).2.2
    (missing "min_area".toList)).2 ⟨_, _, harea, .missing rfl rfl rfl, fun other q hmem hq => ?_⟩
  · have hheld := ((validate_pointwise hsorted lotsSupplied).2.1 _ hvalidate).1 _ _ harea
    exact ⟨hsorted, hfault, hheld.trans (by cbv)⟩
  · simp only [lots, List.mem_cons, Prod.mk.injEq, List.not_mem_nil, or_false] at hmem
    rcases hmem with ⟨rfl, rfl⟩ | ⟨rfl, -⟩ | ⟨rfl, -⟩
    · exact absurd ⟨_, .byDefault rfl rfl, by simp [Allows]⟩ hq
    · exact .inl rfl
    · exact .inr (by decide)

end Schema

end LotSearch
