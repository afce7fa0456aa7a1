import PageBlocks.Json.Basic
/-!
# Checks of data

Data from outside is checked against what is expected of it: a text, a list whose items are as
expected, an object with certain fields and no others.  Each issue that is found tells the place of
the value in question and what is wrong with it, and a check goes on after an issue, so that all of
them are told at once.

## Main results

* `Checked.inside_ok` — a value without issues has none inside a larger one either.
* `Checked.both_ok` — two values are without issues together exactly when each of them is.
* `Checked.text_ok` — exactly strings are texts.
* `Checked.extras_ok` — an object is without issues exactly when all of its fields are known.
-/

namespace PageBlocks

/-- A step from a value to a part of it, or to one way of reading it. -/
inductive Step where
  | name (text : String)
  | index (place : Nat)
deriving DecidableEq, Repr

/-- What is wrong with a value. -/
inductive Complaint where
  | missing
  | noText
  | noList
  | noMapping
  /-- Neither a list nor anything like one. -/
  | noTuple
  /-- No object of the named kind. -/
  | noRecord (kind : String)
  /-- A field that is not known. -/
  | extra
  /-- None of the words that are allowed. -/
  | noneOf (words : String)
  | notCallable
  | tooLong (most actual : Nat)
  | noInteger
  | unreadableInteger
  | fractionalInteger
  | hugeInteger
  | infiniteNumber
  | unknownStrategy (name : String)
deriving DecidableEq, Repr

namespace Complaint

/-- The name of a kind of complaint. -/
def kind : Complaint → String
  | missing => "missing"
  | noText => "string_type"
  | noList => "list_type"
  | noMapping => "dict_type"
  | noTuple => "tuple_type"
  | noRecord _ => "model_type"
  | extra => "extra_forbidden"
  | noneOf _ => "literal_error"
  | notCallable => "callable_type"
  | tooLong .. => "too_long"
  | noInteger => "int_type"
  | unreadableInteger => "int_parsing"
  | fractionalInteger => "int_from_float"
  | hugeInteger => "int_parsing_size"
  | infiniteNumber => "finite_number"
  | unknownStrategy _ => "value_error"

/-- The wording of a complaint. -/
def message : Complaint → String
  | missing => "Field required"
  | noText => "Input should be a valid string"
  | noList => "Input should be a valid list"
  | noMapping => "Input should be a valid dictionary"
  | noTuple => "Input should be a valid tuple"
  | noRecord kind => "Input should be a valid dictionary or instance of " ++ kind
  | extra => "Extra inputs are not permitted"
  | noneOf words => "Input should be " ++ words
  | notCallable => "Input should be callable"
  | tooLong most actual =>
    s!"Tuple should have at most {most} " ++ (if most = 1 then "item" else "items") ++
      s!" after validation, not {actual}"
  | noInteger => "Input should be a valid integer"
  | unreadableInteger =>
    "Input should be a valid integer, unable to parse string as an integer"
  | fractionalInteger =>
    "Input should be a valid integer, got a number with a fractional part"
  | hugeInteger => "Unable to parse input string as an integer, exceeded maximum size"
  | infiniteNumber => "Input should be a finite number"
  | unknownStrategy name => "Value error, unknown parse strategy '" ++ name ++ "'"

end Complaint

/-- A complaint about the value at a place. -/
structure Issue where
  place : List Step
  complaint : Complaint
deriving DecidableEq, Repr

/-- How many issues there are with a record of a kind. -/
def Issue.summary (kind : String) (issues : List Issue) : String :=
  s!"{issues.length} validation " ++ (if issues.length = 1 then "error" else "errors") ++ " for " ++
    kind

/-- A value that has been checked, or all that is wrong with it. -/
abbrev Checked := Except (List Issue)

namespace Checked

/-- A single complaint about the value itself. -/
def fail (complaint : Complaint) : Checked α :=
  .error [⟨[], complaint⟩]

/-- The issues of a value, seen from the value that it is a part of. -/
def inside (step : Step) : Checked α → Checked α
  | .ok value => .ok value
  | .error issues => .error (issues.map fun issue => { issue with place := step :: issue.place })

/-- Two values together. -/
def both : Checked α → Checked β → Checked (α × β)
  | .ok first, .ok second => .ok (first, second)
  | .ok _, .error issues => .error issues
  | .error issues, .ok _ => .error issues
  | .error issues, .error more => .error (issues ++ more)

/-- All values of a list, whose first one has the given place. -/
def itemsFrom (check : α → Checked β) : (place : Nat) → List α → Checked (List β)
  | _, [] => .ok []
  | place, item :: rest =>
    (both ((check item).inside (.index place)) (itemsFrom check (place + 1) rest)).map
      fun (first, rest) => first :: rest

/-- All values of a list. -/
def items (check : α → Checked β) (list : List α) : Checked (List β) :=
  itemsFrom check 0 list

/-- The value of the first of two ways of reading that succeeds, or the issues of both. -/
def orElse : Checked α → Checked α → Checked α
  | .ok value, _ => .ok value
  | .error _, .ok value => .ok value
  | .error issues, .error more => .error (issues ++ more)

theorem inside_ok {step : Step} {checked : Checked α} {value : α} :
    checked.inside step = .ok value ↔ checked = .ok value := by
  cases checked <;> simp [inside]

theorem both_ok {first : Checked α} {second : Checked β} {value : α × β} :
    both first second = .ok value ↔ first = .ok value.1 ∧ second = .ok value.2 := by
  cases first <;> cases second <;> simp [both, Prod.ext_iff]

/-! ## What is expected -/

/-- A string. -/
def text : Json → Checked String
  | .text content => .ok content
  | _ => fail .noText

theorem text_ok {value : Json} {content : String} :
    text value = .ok content ↔ value = .text content := by
  cases value <;> simp [text, fail]

/-- A string or nothing. -/
def textOrNull : Json → Checked (Option String)
  | .null => .ok none
  | value => (text value).map some

/-- A list whose items pass a check. -/
def list (check : Json → Checked α) : Json → Checked (List α)
  | .list values => items check values
  | _ => fail .noList

/-- An object with any fields. -/
def mapping : Json → Checked Json.Fields
  | .object fields => .ok fields
  | _ => fail .noMapping

/-- An object of a kind whose fields pass a check. -/
def record (kind : String) (check : Json.Fields → Checked α) : Json → Checked α
  | .object fields => check fields
  | _ => fail (.noRecord kind)

/-- A field that has to be there. -/
def required (fields : Json.Fields) (name : String) (check : Json → Checked α) : Checked α :=
  (match Json.get? fields name with
    | some value => check value
    | none => fail .missing).inside (.name name)

/-- A field that may be left out. -/
def optional (fields : Json.Fields) (name : String) (check : Json → Checked α) :
    Checked (Option α) :=
  match Json.get? fields name with
  | some value => inside (.name name) ((check value).map some)
  | none => .ok none

/-- Complains of all fields that are not known. -/
def extras (known : List String) (fields : Json.Fields) : Checked Unit :=
  match fields.filter fun entry => !known.contains entry.1 with
  | [] => .ok ()
  | unknown => .error (unknown.map fun entry => ⟨[.name entry.1], .extra⟩)

theorem extras_ok {known : List String} {fields : Json.Fields} :
    extras known fields = .ok () ↔ ∀ entry ∈ fields, entry.1 ∈ known := by
  unfold extras
  split
  · next h => simpa using List.filter_eq_nil_iff.1 h
  · next h =>
    simp only [reduceCtorEq, false_iff]
    intro hall
    exact h (List.filter_eq_nil_iff.2 (by simpa using hall))

end Checked

end PageBlocks
