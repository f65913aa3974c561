import LotSearch.Template.Parameter
import Mathlib

/-!
# Declarations as they are listed

A declaration may be kept as an object or as the list of its parts, with entries that are `null`
and entries under other names.  A listing shows it in one form, which leaves out what is not set.
Since a default that is `null` is no default, whatever was read is read again from that form.
-/

namespace LotSearch

theorem ParameterType.ofName?_name (type : ParameterType) :
    ofName? type.name.toList = some type := by
  cases type <;> rfl

namespace Parameter

variable {p : Parameter} {v type required allowed default description : Option Json}

theorem present_eq_self (h : v ≠ some .null) : present v = v := by
  cases v with
  | none => rfl
  | some v =>
      cases v with
      | null => exact absurd rfl h
      | _ => rfl

theorem present_ne_some_null (v : Option Json) : present v ≠ some .null := by
  intro h
  obtain ⟨-, hnull⟩ := Option.filter_eq_some_iff.1 h
  cases hnull

/-- The parts from which a declaration is read. -/
theorem ofParts?_eq_some_iff : ofParts? type required allowed default description = some p ↔
    type.bind ParameterType.ofJson? = some p.type ∧
      required.getD (.bool false) = .bool p.required ∧
        present allowed = p.allowed.map Json.list ∧ present default = p.default ∧
          present description = p.description.map Json.text := by
  obtain ⟨type', required', allowed', default', description'⟩ := p
  unfold ofParts?
  cases type.bind ParameterType.ofJson? with
  | none => simp
  | some type =>
      simp only [Option.bind_eq_bind, Option.bind_some, Option.some.injEq]
      split
      case h_3 v hv => exact ⟨nofun, fun h => absurd h.2.1 (hv _)⟩
      all_goals
        split
        case h_3 v hv hallowed =>
          refine ⟨nofun, fun h => ?_⟩
          obtain ⟨values, -, heq⟩ := Option.map_eq_some_iff.1 (h.2.2.1.symm.trans hallowed)
          exact absurd heq.symm (hv values)
        all_goals
          split
          case h_3 v hv hdescription =>
            refine ⟨nofun, fun h => ?_⟩
            obtain ⟨t, -, heq⟩ := Option.map_eq_some_iff.1 (h.2.2.2.2.symm.trans hdescription)
            exact absurd heq.symm (hv t)
          all_goals simp [*, eq_comm]

/-- A declaration that can be read from JSON. -/
def Readable (p : Parameter) : Prop := p.default ≠ some .null

theorem readable_of_ofParts? (h : ofParts? type required allowed default description = some p) :
    p.Readable := by
  obtain ⟨-, -, -, hdefault, -⟩ := ofParts?_eq_some_iff.1 h
  rw [Readable, ← hdefault]
  exact present_ne_some_null default

theorem readable_of_ofJson? {json : Json} (h : ofJson? json = some p) : p.Readable := by
  unfold ofJson? at h
  split at h
  · exact readable_of_ofParts? h
  · split_ifs at h
    exact readable_of_ofParts? h
  · cases h

theorem ofJson?_toJson_eq (p : Parameter) : ofJson? p.toJson =
    ofParts? (some (.text p.type.name.toList)) (some (.bool p.required)) (p.allowed.map Json.list)
      p.default (p.description.map Json.text) := by
  obtain ⟨type, required, allowed, default, description⟩ := p
  cases allowed <;> cases default <;> cases description <;>
    simp [toJson, ofJson?, Json.Fields.ofList, Json.Fields.get?_insert]

theorem ofJson?_toJson (h : p.Readable) : ofJson? p.toJson = some p := by
  have hallowed : p.allowed.map Json.list ≠ some .null := by simp
  have hdescription : p.description.map Json.text ≠ some .null := by simp
  rw [ofJson?_toJson_eq]
  exact ofParts?_eq_some_iff.2 ⟨ParameterType.ofName?_name p.type, rfl, present_eq_self hallowed,
    present_eq_self h, present_eq_self hdescription⟩

end Parameter

namespace Schema

variable {fields : Json.Fields} {schema : Schema} {v : Option Json}

def Readable (schema : Schema) : Prop := ∀ name p, (name, p) ∈ schema → p.Readable

theorem readable_of_ofFields? (h : ofFields? fields = some schema) : schema.Readable := by
  induction fields generalizing schema with
  | nil =>
      cases h
      exact fun _ _ hmem => absurd hmem List.not_mem_nil
  | cons field fields ih =>
      obtain ⟨p, hp, hrest⟩ := Option.bind_eq_some_iff.1 h
      obtain ⟨schema', hschema, heq⟩ := Option.bind_eq_some_iff.1 hrest
      cases heq
      intro name q hmem
      rcases List.mem_cons.1 hmem with heq | hmem
      · cases heq
        exact Parameter.readable_of_ofJson? hp
      · exact ih hschema name q hmem

theorem readable_of_ofJson? (h : ofJson? v = some schema) : schema.Readable := by
  unfold ofJson? at h
  split at h
  · exact readable_of_ofFields? (show ofFields? [] = some schema from h)
  · exact readable_of_ofFields? (show ofFields? [] = some schema from h)
  · exact readable_of_ofFields? h
  · cases h

theorem ofJson?_toJson (h : schema.Readable) : ofJson? (some schema.toJson) = some schema := by
  change ofFields? (schema.map fun d => (d.1, d.2.toJson)) = some schema
  induction schema with
  | nil => rfl
  | cons d schema ih =>
      obtain ⟨name, p⟩ := d
      have hp := Parameter.ofJson?_toJson (h name p List.mem_cons_self)
      have hschema := ih fun n q hmem => h n q (List.mem_cons_of_mem _ hmem)
      simp only [List.map_cons, ofFields?, hp, hschema]
      rfl

/-- The parameters that can be declared are those without a default that is `null`. -/
theorem exists_ofJson?_iff : (∃ v, ofJson? v = some schema) ↔ schema.Readable :=
  ⟨fun ⟨_, h⟩ => readable_of_ofJson? h, fun h => ⟨_, ofJson?_toJson h⟩⟩

end Schema

namespace Template

def field? (t : Template) (name : String) : Option Json :=
  t.toJson.object?.bind (Json.Fields.get? name.toList)

theorem field?_parameterSchema (t : Template) :
    t.field? "parameterSchema" = some t.schema.toJson := by
  simp [field?, toJson, Json.object?, Json.Fields.ofList]

/-- In whatever form the declarations of a template were kept, those that the listing shows for it
are read as the same parameters. -/
theorem schema_of_listed {v : Option Json} {schema : Schema} (h : Schema.ofJson? v = some schema)
    {t : Template} (ht : t.schema = schema) :
    ∃ listed, t.field? "parameterSchema" = some listed ∧
      Schema.ofJson? (some listed) = some schema := by
  subst ht
  have hreadable := Schema.readable_of_ofJson? h
  exact ⟨_, field?_parameterSchema t, Schema.ofJson?_toJson hreadable⟩

def floorTemplate : Template where
  id := "floor".toList
  name := "Lots by number of floors".toList
  description := none
  category := none
  sql := "SELECT bbl FROM properties".toList
  schema := [("floor".toList, ⟨.number, true, some [.null, .number (.whole 2)], none, none⟩),
    ("street".toList, ⟨.string, false, some [], none, none⟩)]

/-- The list of the parts of one parameter, whose type is an object, and an object for the other,
with an entry that is `null` and one under another name. -/
def floorDeclared : Json :=
  .object [("floor".toList, .list [.object [("number".toList, .null)], .bool true,
      .list [.null, .number (.whole 2)], .null]),
    ("street".toList, .object [("description".toList, .null), ("enum".toList, .list []),
      ("label".toList, .text "Street".toList), ("type".toList, .text "string".toList)])]

theorem schema_of_listed_floor : Schema.ofJson? (some floorDeclared) = some floorTemplate.schema ∧
    ∃ listed, floorTemplate.field? "parameterSchema" = some listed ∧
      Schema.ofJson? (some listed) = some floorTemplate.schema :=
  have h : Schema.ofJson? (some floorDeclared) = some floorTemplate.schema := by rfl
  ⟨h, schema_of_listed h rfl⟩

/-- A default that is `null` is not read again. -/
example : Parameter.ofJson? (Parameter.toJson ⟨.number, true, none, some .null, none⟩) =
    some ⟨.number, true, none, none, none⟩ := by rfl

end Template

end LotSearch
