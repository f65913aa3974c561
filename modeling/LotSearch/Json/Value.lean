import LotSearch.Number.Dyadic
import LotSearch.Text.Basic

/-!
# JSON values

Numbers keep integers apart from floating-point values.  The fields of an object are a list of
named values in which a look-up takes the first field of a name; every operation here keeps the
names in their order and each name once.
-/

namespace LotSearch

/-- A JSON number: an integer, or a finite floating-point value. -/
inductive JsonNumber where
  | whole (value : Int)
  | real (value : Dyadic)
deriving Repr, DecidableEq, Inhabited

/-- Whether two numbers are equal; an integer never equals a floating-point value, and the two
floating-point zeros are equal. -/
def JsonNumber.same : JsonNumber → JsonNumber → Bool
  | whole m, whole n => m == n
  | real x, real y => x.same y
  | _, _ => false

inductive Json where
  | null
  | bool (value : Bool)
  | number (value : JsonNumber)
  | text (value : Text)
  | list (items : List Json)
  | object (fields : List (Text × Json))
deriving Repr, BEq, Inhabited

namespace Json

abbrev Fields := List (Text × Json)

mutual

/-- Whether two values are equal, with numbers compared as numbers. -/
def same : Json → Json → Bool
  | null, null => true
  | bool a, bool b => a == b
  | number m, number n => m.same n
  | text s, text t => s == t
  | list xs, list ys => sameList xs ys
  | object fs, object gs => sameFields fs gs
  | _, _ => false

def sameList : List Json → List Json → Bool
  | [], [] => true
  | x :: xs, y :: ys => same x y && sameList xs ys
  | _, _ => false

def sameFields : List (Text × Json) → List (Text × Json) → Bool
  | [], [] => true
  | (k, x) :: fs, (l, y) :: gs => k == l && same x y && sameFields fs gs
  | _, _ => false

end

/-- Whether the value is `null`. -/
def isNull : Json → Bool
  | null => true
  | _ => false

def text? : Json → Option Text
  | text t => some t
  | _ => none

def int? : Json → Option Int
  | number (.whole n) => some n
  | _ => none

def list? : Json → Option (List Json)
  | list items => some items
  | _ => none

def object? : Json → Option Fields
  | object fields => some fields
  | _ => none

namespace Fields

/-- The value of the first field with a name. -/
def get? (name : Text) : Fields → Option Json
  | [] => none
  | (n, v) :: fields => if n = name then some v else get? name fields

/-- The fields with the value of the first field of a name replaced. -/
def replace (name : Text) (value : Json) : Fields → Fields
  | [] => []
  | (n, v) :: fields =>
      if n = name then (n, value) :: fields else (n, v) :: replace name value fields

/-- The fields with a new name put before the first name that it precedes. -/
def place (name : Text) (value : Json) : Fields → Fields
  | [] => [(name, value)]
  | (n, v) :: fields =>
      if Text.precedes name n then (name, value) :: (n, v) :: fields
      else (n, v) :: place name value fields

/-- The fields with a value set under a name. -/
def insert (name : Text) (value : Json) (fields : Fields) : Fields :=
  if (get? name fields).isSome then replace name value fields else place name value fields

/-- The fields of a list of named values, in which the last value of a name counts. -/
def ofList (named : List (Text × Json)) : Fields :=
  named.foldl (fun fields (name, value) => fields.insert name value) []

@[simp] theorem get?_nil (name : Text) : get? name [] = none := rfl

theorem get?_replace (name other : Text) (value : Json) (fields : Fields) :
    (fields.replace name value).get? other =
      if other = name ∧ (fields.get? name).isSome then some value else fields.get? other := by
  induction fields with
  | nil => simp [replace]
  | cons field fields ih =>
      obtain ⟨n, v⟩ := field
      by_cases hn : n = name
      · subst hn
        by_cases ho : other = n
        · subst ho
          simp [replace, get?]
        · simp [replace, get?, ho, Ne.symm ho]
      · by_cases ho : n = other
        · subst ho
          simp [replace, get?, hn]
        · simp [replace, get?, hn, ho, ih]

theorem get?_place (name other : Text) (value : Json) (fields : Fields)
    (h : fields.get? name = none) :
    (fields.place name value).get? other =
      if other = name then some value else fields.get? other := by
  induction fields with
  | nil =>
      by_cases ho : name = other
      · subst ho
        simp [place, get?]
      · simp [place, get?, ho, Ne.symm ho]
  | cons field fields ih =>
      obtain ⟨n, v⟩ := field
      have hn : n ≠ name := fun e => by simp [get?, e] at h
      have hrest : Fields.get? name fields = none := by simpa [get?, hn] using h
      by_cases hp : Text.precedes name n
      · by_cases ho : name = other
        · subst ho
          simp [place, hp, get?]
        · simp [place, hp, get?, ho, Ne.symm ho]
      · by_cases ho : n = other
        · subst ho
          simp [place, hp, get?, hn]
        · simp [place, hp, get?, ho, ih hrest]

/-- Setting a value changes the look-up of its name and of no other. -/
theorem get?_insert (name other : Text) (value : Json) (fields : Fields) :
    (fields.insert name value).get? other =
      if other = name then some value else fields.get? other := by
  unfold insert
  split
  · rename_i h
    simp [get?_replace, h]
  · rename_i h
    exact get?_place name other value fields (by simpa using h)

@[simp] theorem get?_insert_self (name : Text) (value : Json) (fields : Fields) :
    (fields.insert name value).get? name = some value := by
  simp [get?_insert]

theorem ofList_append_singleton (named : List (Text × Json)) (name : Text) (value : Json) :
    ofList (named ++ [(name, value)]) = (ofList named).insert name value := by
  simp [ofList]

theorem insert_eq_self {name : Text} {value : Json} {fields : Fields}
    (h : fields.get? name = some value) : fields.insert name value = fields := by
  have key : ∀ fs : Fields, fs.get? name = some value → fs.replace name value = fs := by
    intro fs
    induction fs with
    | nil => simp
    | cons field fs ih =>
        obtain ⟨n, v⟩ := field
        by_cases hn : n = name
        · subst hn
          simp [get?, replace]
          exact Eq.symm
        · simpa [get?, replace, hn] using ih
  simp [insert, h, key fields h]

end Fields

end Json

end LotSearch
