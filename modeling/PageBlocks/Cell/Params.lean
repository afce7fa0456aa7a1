import PageBlocks.Cell.Value
import PageBlocks.Schema.Check
import PageBlocks.Text.Blank
import PageBlocks.Text.Letter
import PageBlocks.Text.Search
/-!
# How text in cells is changed

Text that is taken from the page may be changed by one replacement, and one part of it may be kept.
Both are told by short lists: a pattern and what takes its place, and a delimiter and the place of
a part.
-/

namespace PageBlocks

open PageBlocks.Text

/-- Changes to text that is taken from the page. -/
structure CellParams where
  /-- A pattern, and what takes the place of its first match. -/
  replacement : Option (String × Option String)
  /-- A delimiter, and which of the parts between its occurrences is kept. -/
  part : Option (String × Option Int)
deriving DecidableEq, Repr

namespace CellParams

/-- No changes. -/
def none : CellParams := ⟨.none, .none⟩

/-! ## Integers in lax notation -/

/-- Digits in which single underscores may stand between two digits. -/
def groupedDigits? : List Char → Option (List Char)
  | [] => .none
  | [c] => if isAsciiDigit c then some [c] else .none
  | c :: '_' :: rest => if isAsciiDigit c then (groupedDigits? rest).map (c :: ·) else .none
  | c :: rest => if isAsciiDigit c then (groupedDigits? rest).map (c :: ·) else .none

/-- A number without the point and zeros that may follow it. -/
def dropZeroFraction (text : List Char) : List Char :=
  match cut? ['.'] text with
  | some (whole, fraction) => if fraction.all (· = '0') then whole else text
  | .none => text

/-- Blanks that may stand around a number. -/
def isPadding (c : Char) : Bool :=
  isBlank c && !(0x1C ≤ c.toNat && c.toNat ≤ 0x1F)

/-- The integer that a text writes. -/
def readInteger? (text : List Char) : Option Int :=
  let text := ((text.dropWhile isPadding).reverse.dropWhile isPadding).reverse
  let number (digits : List Char) : Int :=
    digits.foldl (fun number c => number * 10 + (c.toNat - 0x30 : Nat)) 0
  match text with
  | '-' :: rest =>
    (groupedDigits? (dropZeroFraction rest)).bind fun digits =>
      if digits.length ≠ 1 && digits.head? = some '0' then .none else some (-number digits)
  | '+' :: rest => (groupedDigits? (dropZeroFraction rest)).map number
  | rest => (groupedDigits? (dropZeroFraction rest)).map number

/-- The greatest number of characters in which an integer is written. -/
def maxIntegerText : Nat := 4300

/-- The integer that a decimal number is, as far as it fits into a machine word. -/
def integerOfDecimal : Decimal → Checked Int
  | .finite mantissa exponent _ =>
    let value? : Option Int :=
      if 0 ≤ exponent then
        if 400 < exponent && mantissa ≠ 0 then some (Int.pow 10 400)
        else some (mantissa * Int.pow 10 exponent.toNat)
      else
        let divisor := Int.pow 10 exponent.natAbs
        if mantissa % divisor = 0 then some (mantissa / divisor) else .none
    match value? with
    | some value =>
      if -(Int.pow 2 63) ≤ value && value < Int.pow 2 63 then .ok value else Checked.fail .hugeInteger
    | .none => Checked.fail .fractionalInteger
  | .infinite _ | .notANumber => Checked.fail .infiniteNumber

/-! ## Checks -/

/-- A text. -/
def checkText : Value → Checked String
  | .text content => .ok content
  | _ => Checked.fail .noText

/-- An integer, which may be written as text. -/
def checkInteger : Value → Checked Int
  | .integer value => .ok value
  | .bool value => .ok (if value then 1 else 0)
  | .decimal value => integerOfDecimal value
  | .text content =>
    if maxIntegerText < content.length then Checked.fail .hugeInteger
    else match readInteger? content.toList with
      | some value => .ok value
      | .none => Checked.fail .unreadableInteger
  | _ => Checked.fail .noInteger

/-- The item at a place of a list. -/
def checkItem (check : Value → Checked α) (place : Nat) (items : List Value) : Checked α :=
  (match items[place]? with
    | some item => check item
    | .none => Checked.fail .missing).inside (.index place)

/-- A list of one or two items, read as either.  The first item is a text. -/
def checkPair (check : Value → Checked α) (pair single : String) (value : Value) :
    Checked (String × Option α) :=
  let asPair : Checked (String × Option α) :=
    match value with
    | .list items =>
      if 2 < items.length then Checked.fail (.tooLong 2 items.length)
      else (Checked.both (checkItem checkText 0 items) (checkItem check 1 items)).map
        fun (first, second) => (first, some second)
    | _ => Checked.fail .noTuple
  let asSingle : Checked (String × Option α) :=
    match value with
    | .list items =>
      if 1 < items.length then Checked.fail (.tooLong 1 items.length)
      else (checkItem checkText 0 items).map fun first => (first, .none)
    | _ => Checked.fail .noTuple
  (asPair.inside (.name pair)).orElse (asSingle.inside (.name single))

/-- A field that may be absent. -/
def checkField (check : Value → Checked α) (name : String) (fields : List (String × Value)) :
    Checked (Option α) :=
  match Json.get? fields name with
  | .none | some .null => .ok .none
  | some value => Checked.inside (.name name) ((check value).map some)

/-- The changes that a value tells. -/
def check : Value → Checked CellParams
  | .config fields =>
    (Checked.both
      (checkField (checkPair checkText "tuple[str, str]" "tuple[str]") "replace" fields)
      (checkField (checkPair checkInteger "tuple[str, int]" "tuple[str]") "split" fields)).map
      fun (replacement, part) => ⟨replacement, part⟩
  | _ => Checked.fail (.noRecord "CellParams")

end CellParams

end PageBlocks
