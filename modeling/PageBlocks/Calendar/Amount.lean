import PageBlocks.Calendar.Token
import PageBlocks.Text.Search
/-!
# Amounts in a date

Numbers in a date may have a fraction, such as the hours in `10.5h`.  What is below the point is
told in the next smaller unit, sixty of which make one.  Fractions are worked out to 28 digits, and
an amount that has more digits than that before its point has no fraction at all.
-/

namespace PageBlocks.Calendar

open PageBlocks.Text

/-- Why a date cannot be read. -/
inductive Fault where
  | unreadable
  /-- A fraction is asked for of a number that is too large to have one. -/
  | hugeAmount
deriving DecidableEq, Repr

/-- The number that decimal digits of any script write. -/
def wholeNumber? (digits : List Char) : Option Nat :=
  if digits.isEmpty then none
  else (digits.mapM decimalValue?).map fun values =>
    values.foldl (fun number value => number * 10 + value) 0

/-- A number that decimal digits write, or the end of reading. -/
def wholeNumber (digits : List Char) : Except Fault Nat :=
  match wholeNumber? digits with
  | some number => .ok number
  | none => .error .unreadable

/-- A decimal number: `whole` plus `fraction` shifted down by a number of decimal places. -/
structure Amount where
  whole : Nat
  fraction : Nat
  places : Nat
deriving DecidableEq, Repr

/-- How many digits of a number are worked out. -/
def maxDigits : Nat := 28

/-- Is a number more than half of a unit, or exactly half of it next to an odd quotient? -/
def roundsUp (quotient remainder unit : Nat) : Bool :=
  unit < 2 * remainder || (2 * remainder = unit && quotient % 2 = 1)

/-- A number below the point with the digits that are worked out, a half going to the even
neighbour. -/
def roundDigits (number places : Nat) : Nat × Nat :=
  let excess := (Nat.toDigits 10 number).length - maxDigits
  if excess = 0 then (number, places)
  else
    let unit := Nat.pow 10 excess
    let quotient := number / unit
    (if roundsUp quotient (number % unit) unit then quotient + 1 else quotient, places - excess)

namespace Amount

/-- The number that a token writes. -/
def ofToken? (token : Token) : Option Amount :=
  match cut? ['.'] token with
  | none => (wholeNumber? token).map fun whole => ⟨whole, 0, 0⟩
  | some (whole, fraction) =>
    match wholeNumber? whole, wholeNumber? fraction with
    | some whole, some value => some ⟨whole, value, fraction.length⟩
    | _, _ => none

/-- What is below the point, in sixtieths; nothing for a whole number. -/
def sixtieths? (amount : Amount) : Except Fault (Option Nat) :=
  if Nat.pow 10 maxDigits ≤ amount.whole then .error .hugeAmount
  else
    let (fraction, places) := roundDigits amount.fraction amount.places
    if fraction = 0 then .ok none
    else
      let (sixtieths, places) := roundDigits (60 * fraction) places
      .ok (some (sixtieths / Nat.pow 10 places))

/-- Is an amount greater than a whole number? -/
def exceeds (amount : Amount) (bound : Nat) : Bool :=
  bound < amount.whole || (amount.whole = bound && amount.fraction ≠ 0)

end Amount

/-- The seconds that a token writes, which may have a fraction. -/
def secondsOf (token : Token) : Except Fault Nat :=
  match cut? ['.'] token with
  | none => wholeNumber token
  | some (whole, fraction) =>
    if fraction.contains '.' then .error .unreadable
    else do
      let seconds ← wholeNumber whole
      let _ ← wholeNumber (fraction.take 6 ++ List.replicate (6 - fraction.length) '0')
      .ok seconds

end PageBlocks.Calendar
