/-!
# JSON values

A JSON document as a value.  Objects keep their fields in the order in which they were written,
with one entry per name: a name that is written again replaces the value of its first entry.
Numbers without a fraction and an exponent are integers of any size; all others stay decimal.

## Main results

* `Json.put_keys_mem` — writing a field under a name that is there keeps the list of names.
* `Json.get?_put_self`, `Json.get?_put_of_ne` — a field that was written reads back, and writing
  it leaves the others alone.
-/

namespace PageBlocks

/-- A number with a fraction or an exponent. -/
inductive Decimal where
  /-- The number `mantissa * 10 ^ exponent`; `negativeZero` tells `-0.0` from `0.0`. -/
  | finite (mantissa exponent : Int) (negativeZero : Bool)
  | infinite (negative : Bool)
  | notANumber
deriving DecidableEq, Repr

/-- A JSON value. -/
inductive Json where
  | null
  | bool (value : Bool)
  | integer (value : Int)
  | decimal (value : Decimal)
  | text (value : String)
  | list (items : List Json)
  | object (fields : List (String × Json))
deriving Repr, Inhabited

namespace Json

/-- An ordered list of named values. -/
abbrev Fields := List (String × Json)

/-- Writes a field: the value of the entry of that name is replaced where it stands, and a new
name is appended. -/
def put (fields : List (String × α)) (name : String) (value : α) : List (String × α) :=
  match fields with
  | [] => [(name, value)]
  | (key, old) :: rest =>
    if key = name then (key, value) :: rest else (key, old) :: put rest name value

/-- The value of a field. -/
def get? (fields : List (String × α)) (name : String) : Option α :=
  (fields.find? (·.1 = name)).map (·.2)

theorem get?_put_self {fields : List (String × α)} {name : String} {value : α} :
    get? (put fields name value) name = some value := by
  induction fields with
  | nil => simp [put, get?]
  | cons entry rest ih =>
    obtain ⟨key, old⟩ := entry
    by_cases h : key = name
    · simp [put, get?, h]
    · simpa [put, get?, h] using ih

theorem get?_put_of_ne {fields : List (String × α)} {name other : String} {value : α}
    (h : other ≠ name) : get? (put fields name value) other = get? fields other := by
  induction fields with
  | nil => simp [put, get?, Ne.symm h]
  | cons entry rest ih =>
    obtain ⟨key, old⟩ := entry
    by_cases hk : key = name
    · subst hk
      simp [put, get?, Ne.symm h]
    · by_cases ho : key = other
      · simp [put, get?, ho, h]
      · simpa [put, get?, hk, ho] using ih

theorem put_keys_mem {fields : List (String × α)} {name : String} {value : α}
    (h : name ∈ fields.map (·.1)) :
    (put fields name value).map (·.1) = fields.map (·.1) := by
  induction fields with
  | nil => simp at h
  | cons entry rest ih =>
    obtain ⟨key, old⟩ := entry
    by_cases hk : key = name
    · simp [put, hk]
    · have : name ∈ rest.map (·.1) := by
        simpa [Ne.symm hk] using h
      simp [put, hk, ih this]

/-- Fields in the order of their first entries, each with its last value. -/
def ofEntries (entries : List (String × α)) : List (String × α) :=
  entries.foldl (fun fields entry => put fields entry.1 entry.2) []

/-- The field of an object; other values have no fields. -/
def field? : Json → String → Option Json
  | object fields, name => get? fields name
  | _, _ => none

/-- The text of a string value. -/
def text? : Json → Option String
  | text value => some value
  | _ => none

/-- The items of a list value. -/
def items? : Json → Option (List Json)
  | list items => some items
  | _ => none

end Json

end PageBlocks
