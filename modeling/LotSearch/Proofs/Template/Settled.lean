import LotSearch.Proofs.Template.Literal
import LotSearch.Template.Validation

/-!
# Settled parameters

A declared parameter is settled by its supplied value brought to the declared type, by its default
as it stands, or not at all, and it is never settled by a value that its declaration does not
allow.  Coming from the caller a value has its declared type; a default has it only if it was
declared so.
-/

namespace LotSearch

/-- Whether a value has a type as it stands. -/
def ParameterType.Admits : ParameterType → Json → Prop
  | string, .text _ => True
  | number, .number _ => True
  | boolean, .bool _ => True
  | _, _ => False

/-- The literals of a type: a quoted text, the digits of a number without quotes, or one of the two
words for truth. -/
def ParameterType.Writes : ParameterType → Text → Prop
  | string, t => ∃ u, t = '\'' :: (Piece.doubleQuotes u ++ ['\''])
  | number, t => '\'' ∉ t ∧ ∃ n, t = Json.writeNumber n
  | boolean, t => t = "TRUE".toList ∨ t = "FALSE".toList

/-- Whether a declaration allows a value: without a list of allowed values every one. -/
def Parameter.Allows (p : Parameter) (v : Json) : Prop :=
  ∀ allowed ∈ p.allowed, ∃ w ∈ allowed, v.same w = true

/-- No parameter is declared twice. -/
def Schema.Distinct (schema : Schema) : Prop := (schema.map Prod.fst).Nodup

instance (schema : Schema) : Decidable schema.Distinct :=
  inferInstanceAs (Decidable (schema.map Prod.fst).Nodup)

/-- A default that stands in for a value has the declared type, where it is not `null`. -/
def Parameter.DefaultFits (p : Parameter) (supplied : Option Json) : Prop :=
  present supplied = none → ∀ d, p.default = some d → d.isNull = false → p.type.Admits d

def Schema.DefaultsFit (schema : Schema) (supplied : Json.Fields) : Prop :=
  ∀ name p, (name, p) ∈ schema → p.DefaultFits (supplied.get? name)

/-! ## Types -/

namespace ParameterType

theorem Admits.isNull {type : ParameterType} {v : Json} (h : type.Admits v) : v.isNull = false := by
  cases v with
  | null => cases type <;> exact h.elim
  | _ => rfl

theorem Admits.writes {type : ParameterType} {v : Json} (h : type.Admits v) :
    ∃ t, Piece.literal? v = some t ∧ type.Writes t := by
  match type, v, h with
  | .string, .text u, _ => exact ⟨_, rfl, u, rfl⟩
  | .number, .number n, _ => exact ⟨_, rfl, (Json.quiet_writeNumber n).1.quote_notMem, n, rfl⟩
  | .boolean, .bool true, _ => exact ⟨_, rfl, .inl rfl⟩
  | .boolean, .bool false, _ => exact ⟨_, rfl, .inr rfl⟩

end ParameterType

namespace Parameter

theorem coerce?_eq_self {type : ParameterType} {v : Json} (h : type.Admits v) :
    coerce? type v = some v := by
  match type, v, h with
  | .string, .text _, _ => rfl
  | .number, .number _, _ => rfl
  | .boolean, .bool _, _ => rfl

/-- Whatever a value is brought to has the type. -/
theorem admits_of_coerce? {type : ParameterType} {v w : Json} (h : coerce? type v = some w) :
    type.Admits w := by
  unfold coerce? at h
  split at h
  · obtain rfl := Option.some.inj h
    trivial
  · obtain ⟨n, -, rfl⟩ := Option.map_eq_some_iff.1 h
    trivial
  · obtain rfl := Option.some.inj h
    trivial
  · obtain rfl := Option.some.inj h
    trivial
  · obtain rfl := Option.some.inj h
    trivial
  · obtain ⟨b, -, rfl⟩ := Option.map_eq_some_iff.1 h
    trivial
  · cases h

theorem present_eq_some {v : Json} (h : v.isNull = false) : present (some v) = some v := by
  simp [present, h]

theorem present_null {v : Json} (h : v.isNull = true) : present (some v) = none := by
  simp [present, h]

/-! ## One parameter -/

/-- What a parameter can take, given its supplied value. -/
inductive Takes (p : Parameter) (supplied : Option Json) : Option Json → Prop
  | given {u v : Json} (hu : present supplied = some u) (hv : coerce? p.type u = some v) :
      Takes p supplied (some v)
  | byDefault {v : Json} (hu : present supplied = none) (hv : p.default = some v) :
      Takes p supplied (some v)
  | unset (hu : present supplied = none) (hv : p.default = none) (hrequired : p.required = false) :
      Takes p supplied none

/-- What a parameter takes before that is compared with the allowed values. -/
def unchecked (p : Parameter) (name : Text) (supplied : Option Json) :
    Except Fault (Option Json) :=
  match present supplied with
  | some v =>
      match coerce? p.type v with
      | some v => .ok (some v)
      | none => .error (mismatch name p.type)
  | none =>
      match p.default with
      | some v => .ok (some v)
      | none => if p.required then .error (missing name) else .ok none

section

variable {p : Parameter} {name : Text} {supplied o : Option Json}

theorem unchecked_eq_ok_iff (name : Text) :
    p.unchecked name supplied = .ok o ↔ p.Takes supplied o := by
  constructor
  · intro h
    unfold unchecked at h
    split at h
    · next hu =>
      split at h
      · next hv =>
        cases h
        exact .given hu hv
      · cases h
    · next hu =>
      split at h
      · next hv =>
        cases h
        exact .byDefault hu hv
      · next hv =>
        split_ifs at h with hrequired
        cases h
        exact .unset hu hv (by simpa using hrequired)
  · intro h
    cases h with
    | given hu hv => simp [unchecked, hu, hv]
    | byDefault hu hv => simp [unchecked, hu, hv]
    | unset hu hv hrequired => simp [unchecked, hu, hv, hrequired]

theorem settle_eq : p.settle name supplied =
    match p.unchecked name supplied, p.allowed with
    | .ok (some v), some allowed =>
        if allowed.any v.same then .ok (some v) else .error (notAllowed name allowed)
    | value, _ => value := rfl

/-- A parameter is settled by what it takes, when its declaration allows that. -/
theorem settle_eq_ok_iff :
    p.settle name supplied = .ok o ↔ p.Takes supplied o ∧ ∀ v ∈ o, p.Allows v := by
  rw [← unchecked_eq_ok_iff name, settle_eq]
  split
  · next v allowed hvalue hallowed =>
    have hallows : p.Allows v ↔ allowed.any v.same = true := by simp [Allows, hallowed]
    rw [hvalue]
    split_ifs with hany
    · refine ⟨fun h => ⟨h, ?_⟩, And.left⟩
      obtain rfl := Except.ok.inj h
      rintro _ ⟨⟩
      exact hallows.2 hany
    · constructor
      · intro h
        cases h
      · rintro ⟨h, hallowed⟩
        obtain rfl := Except.ok.inj h
        exact absurd (hallows.1 (hallowed v rfl)) hany
  · next hother =>
    refine ⟨fun h => ⟨h, ?_⟩, And.left⟩
    rintro v rfl allowed hallowed
    exact absurd hallowed (hother _ _ h)

end

end Parameter

/-! ## A whole schema -/

namespace Schema

open Parameter Json

variable {schema : Schema} {supplied values : Fields}

theorem validate_cons {name : Text} {p : Parameter}
    (h : validate ((name, p) :: schema) supplied = .ok values) :
    ∃ o, p.settle name (supplied.get? name) = .ok o ∧
      schema.validate (match o with
        | some v => supplied.insert name v
        | none => supplied) = .ok values := by
  rw [validate] at h
  split at h
  · cases h
  · next hsettle => exact ⟨none, hsettle, h⟩
  · next v hsettle => exact ⟨some v, hsettle, h⟩

theorem get?_validate_of_notMem {name : Text} (h : schema.validate supplied = .ok values)
    (hname : name ∉ schema.map Prod.fst) : values.get? name = supplied.get? name := by
  induction schema generalizing supplied with
  | nil =>
      obtain rfl := Except.ok.inj h
      rfl
  | cons entry schema ih =>
      obtain ⟨other, p⟩ := entry
      rw [List.map_cons, List.mem_cons, not_or] at hname
      obtain ⟨o, -, hrest⟩ := validate_cons h
      rw [ih hrest hname.2]
      cases o with
      | none => rfl
      | some v => simp [Fields.get?_insert, hname.1]

/-- Each declared parameter is settled by its own supplied value alone. -/
theorem takes_of_validate {name : Text} {p : Parameter} (hdistinct : schema.Distinct)
    (h : schema.validate supplied = .ok values) (hmem : (name, p) ∈ schema) :
    ∃ o, p.Takes (supplied.get? name) o ∧ (∀ v ∈ o, p.Allows v) ∧
      values.get? name = o.or (supplied.get? name) := by
  induction schema generalizing supplied with
  | nil => cases hmem
  | cons entry schema ih =>
      obtain ⟨other, q⟩ := entry
      obtain ⟨hfresh, hrest⟩ := List.nodup_cons.1 hdistinct
      obtain ⟨o, hsettle, hvalidate⟩ := validate_cons h
      obtain ⟨htakes, hallows⟩ := settle_eq_ok_iff.1 hsettle
      rcases List.mem_cons.1 hmem with heq | hlater
      · cases heq
        refine ⟨o, htakes, hallows, ?_⟩
        rw [get?_validate_of_notMem hvalidate hfresh]
        cases o with
        | none => rfl
        | some v => simp
      · -- what is inserted for another name is not seen under this one
        have hne : name ≠ other := by
          rintro rfl
          exact hfresh (List.mem_map.2 ⟨_, hlater, rfl⟩)
        obtain ⟨o', htakes', hallows', hget⟩ := ih hrest hvalidate hlater
        cases o with
        | none => exact ⟨o', htakes', hallows', hget⟩
        | some v =>
            simp only [Fields.get?_insert, hne, if_false] at htakes' hget
            exact ⟨o', htakes', hallows', hget⟩

/-- What a declared parameter holds is allowed, and it has the declared type unless it is the
default. -/
theorem admits_or_default {name : Text} {p : Parameter} {v : Json} (hdistinct : schema.Distinct)
    (h : schema.validate supplied = .ok values) (hmem : (name, p) ∈ schema)
    (hvalue : values.get? name = some v) (hnull : v.isNull = false) :
    p.Allows v ∧ (p.type.Admits v ∨ present (supplied.get? name) = none ∧ p.default = some v) := by
  obtain ⟨o, htakes, hallows, hget⟩ := takes_of_validate hdistinct h hmem
  rw [hvalue] at hget
  cases htakes with
  | given hu hv =>
      obtain rfl := Option.some.inj hget
      exact ⟨hallows v rfl, .inl (admits_of_coerce? hv)⟩
  | byDefault hu hv =>
      obtain rfl := Option.some.inj hget
      exact ⟨hallows v rfl, .inr ⟨hu, hv⟩⟩
  | unset hu _ _ =>
      rw [← (show _ = supplied.get? name from hget), present_eq_some hnull] at hu
      cases hu

/-- A default that is used is what its parameter holds. -/
theorem get?_of_default {name : Text} {p : Parameter} {d : Json} (hdistinct : schema.Distinct)
    (h : schema.validate supplied = .ok values) (hmem : (name, p) ∈ schema)
    (hu : present (supplied.get? name) = none) (hd : p.default = some d) :
    values.get? name = some d := by
  obtain ⟨o, htakes, -, hget⟩ := takes_of_validate hdistinct h hmem
  cases htakes with
  | given hu' _ =>
      rw [hu] at hu'
      cases hu'
  | byDefault _ hv =>
      rw [hd] at hv
      exact hget.trans hv.symm
  | unset _ hv _ =>
      rw [hd] at hv
      cases hv

/-- What a validated parameter holds is always allowed.  It has the declared type, and so a literal
of that type, exactly when the defaults in use have theirs. -/
theorem validate_admits_iff (hdistinct : schema.Distinct)
    (h : schema.validate supplied = .ok values) :
    (∀ name p v, (name, p) ∈ schema → values.get? name = some v → v.isNull = false →
      p.Allows v) ∧
    ((∀ name p v, (name, p) ∈ schema → values.get? name = some v → v.isNull = false →
      p.type.Admits v ∧ ∃ t, Piece.literal? v = some t ∧ p.type.Writes t) ↔
      schema.DefaultsFit supplied) := by
  refine ⟨fun name p v hmem hvalue hnull =>
    (admits_or_default hdistinct h hmem hvalue hnull).1, ?_⟩
  constructor
  · intro hadmits name p hmem hu d hd hnull
    exact (hadmits name p d hmem (get?_of_default hdistinct h hmem hu hd) hnull).1
  · intro hfit name p v hmem hvalue hnull
    have hv : p.type.Admits v := by
      rcases (admits_or_default hdistinct h hmem hvalue hnull).2 with hv | ⟨hu, hd⟩
      · exact hv
      · exact hfit name p hmem hu v hd hnull
    exact ⟨hv, hv.writes⟩

def lots : Schema :=
  [("flag".toList, ⟨.boolean, false, none, some (.bool true), none⟩),
    ("min_area".toList, ⟨.number, true, none, none, none⟩),
    ("zone".toList, ⟨.string, false, some [.text "R6".toList, .text "2".toList], none, none⟩)]

def lotsSupplied : Fields :=
  [("min_area".toList, .text " 7500 ".toList), ("zone".toList, .number (.whole 2))]

def lotsSettled : Fields :=
  [("flag".toList, .bool true), ("min_area".toList, .number (.whole 7500)),
    ("zone".toList, .text "2".toList)]

theorem validate_admits_lots :
    lots.Distinct ∧ lots.validate lotsSupplied = .ok lotsSettled ∧ lots.DefaultsFit lotsSupplied ∧
      ∀ name p v, (name, p) ∈ lots → lotsSettled.get? name = some v → v.isNull = false →
        p.type.Admits v ∧ ∃ t, Piece.literal? v = some t ∧ p.type.Writes t := by
  have hdistinct : lots.Distinct := by decide
  have hvalidate : lots.validate lotsSupplied = .ok lotsSettled := by cbv
  have hfit : lots.DefaultsFit lotsSupplied := by
    intro name p hmem _ d hd _
    simp only [lots, List.mem_cons, Prod.mk.injEq, List.not_mem_nil, or_false] at hmem
    rcases hmem with ⟨-, rfl⟩ | ⟨-, rfl⟩ | ⟨-, rfl⟩
    · obtain rfl := Option.some.inj hd
      trivial
    · cases hd
    · cases hd
  exact ⟨hdistinct, hvalidate, hfit, (validate_admits_iff hdistinct hvalidate).2.2 hfit⟩

/-- A number with digits in quotes for its default. -/
def quotedDefault : Schema :=
  [("min_area".toList, ⟨.number, false, none, some (.text "2500".toList), none⟩)]

theorem not_admits_quotedDefault :
    ¬ ∀ values, quotedDefault.validate [] = .ok values →
      ∀ name p v, (name, p) ∈ quotedDefault → values.get? name = some v → v.isNull = false →
        p.type.Admits v := by
  intro h
  exact h [("min_area".toList, .text "2500".toList)] rfl _ _ _ List.mem_cons_self rfl rfl

end Schema

end LotSearch
