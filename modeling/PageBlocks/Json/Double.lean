import PageBlocks.Json.Basic
/-!
# Numbers of double precision, and agreement of data

A decimal number is held as the nearest number with a binary significand of 53 bits, and written
with the fewest decimal digits that lead back to it; of two such numbers the nearer one counts.

Two JSON values agree when they hold the same data: numbers agree when they are equal, however they
are written, and so do truth values with one and zero; the order of fields does not matter.

## Main results

* `roundRatio_exact` — a ratio that is a whole number is not rounded.
* `Json.agrees_text` — texts agree exactly when they are equal.
* `Json.agrees_null` — nothing agrees only with nothing.
-/

namespace PageBlocks

/-- The number `significand * 2 ^ exponent`. -/
structure Double where
  significand : Nat
  exponent : Int
deriving DecidableEq, Repr

/-- The whole number nearest to a ratio, a half going to the even neighbour. -/
def roundRatio (numerator denominator : Nat) : Nat :=
  let quotient := numerator / denominator
  let twice := 2 * (numerator % denominator)
  if denominator < twice || (twice = denominator && quotient % 2 = 1) then quotient + 1 else quotient

theorem roundRatio_exact (value : Nat) : roundRatio value 1 = value := by
  simp [roundRatio, Nat.mod_one]

/-- A ratio divided by a power of a base. -/
def scaleDown (base : Nat) (ratio : Nat × Nat) (exponent : Int) : Nat × Nat :=
  match exponent with
  | .ofNat power => (ratio.1, ratio.2 * Nat.pow base power)
  | .negSucc power => (ratio.1 * Nat.pow base (power + 1), ratio.2)

/-- Does a number of the form `digits * 10 ^ (-places)` lie on or between two ratios? -/
def isBetween (low high : Nat × Nat) (withEnds : Bool) (digits : Nat) : Bool :=
  let lower := digits * low.2
  let upper := digits * high.2
  (low.1 < lower || (withEnds && low.1 = lower)) && (upper < high.1 || (withEnds && upper = high.1))

/-- A number without the zeros at its end, and how many there were. -/
def dropZeros : (fuel : Nat) → Nat → Nat × Nat
  | 0, value => (value, 0)
  | fuel + 1, value =>
    if value % 10 = 0 then
      let (kept, dropped) := dropZeros fuel (value / 10)
      (kept, dropped + 1)
    else (value, 0)

namespace Double

/-- The least exponent. -/
def minExponent : Int := -1074

/-- The greatest exponent of a number with all 53 bits. -/
def maxExponent : Int := 971

/-- The number nearest to a positive ratio; nothing when that is beyond the range. -/
def ofRatio? (ratio : Nat × Nat) : Option Double :=
  let guess : Int := (Nat.log2 ratio.1 : Int) - Nat.log2 ratio.2 - 53
  let (numerator, denominator) := scaleDown 2 ratio guess
  let exponent := max minExponent (if numerator / denominator < Nat.pow 2 53 then guess else guess + 1)
  let (numerator, denominator) := scaleDown 2 ratio exponent
  let rounded := roundRatio numerator denominator
  let (significand, exponent) :=
    if rounded = Nat.pow 2 53 then (Nat.pow 2 52, exponent + 1) else (rounded, exponent)
  if maxExponent < exponent then none else some ⟨significand, exponent⟩

/-- The ratio `quarters / 4` of the number's last place. -/
def quarters (number : Double) (count : Nat) : Nat × Nat :=
  scaleDown 2 (count, 1) (2 - number.exponent)

/-- The exponent of the first power of ten that is greater than a positive ratio. -/
def decimalLength (ratio : Nat × Nat) : Int :=
  let guess : Int := (Nat.toDigits 10 ratio.1).length - (Nat.toDigits 10 ratio.2).length
  let (numerator, denominator) := scaleDown 10 ratio guess
  if numerator < denominator then guess else guess + 1

/-- The number with the given count of digits that leads back to a number, and how many of its
digits are behind the point. -/
def withDigits? (number : Double) (count : Nat) : Option (Nat × Int) :=
  let middle := number.quarters (4 * number.significand)
  let below := if number.significand = Nat.pow 2 52 && minExponent < number.exponent then 1 else 2
  let places : Int := count - decimalLength middle
  let scaled (quarter : Nat) : Nat × Nat := scaleDown 10 (number.quarters quarter) (-places)
  let low := scaled (4 * number.significand - below)
  let high := scaled (4 * number.significand + 2)
  let (numerator, denominator) := scaled (4 * number.significand)
  let isEven := number.significand % 2 = 0
  let floor := numerator / denominator
  match isBetween low high isEven floor, isBetween low high isEven (floor + 1) with
  | true, true => some (roundRatio numerator denominator, places)
  | true, false => some (floor, places)
  | false, true => some (floor + 1, places)
  | false, false => none

/-- The fewest digits that lead back to a positive number, and how many of them are behind the
point. -/
def shortest (number : Double) : Nat × Int :=
  let (digits, places) := ((List.range 17).findSome? fun count => number.withDigits? (count + 1)).getD
    (number.significand, 0)
  let (kept, dropped) := dropZeros 20 digits
  (kept, places - dropped)

end Double

/-- A decimal number in the notation that has no exponent between a ten-thousandth and ten to the
sixteenth, and always a point or an exponent. -/
def writePoint (digits : Nat) (places : Int) : String :=
  let text := Nat.toDigits 10 digits
  let point : Int := text.length - places
  let zeros (count : Nat) : List Char := List.replicate count '0'
  let written : List Char :=
    if -4 < point && point ≤ 0 then '0' :: '.' :: zeros point.natAbs ++ text
    else if 0 < point && point ≤ 16 then
      if text.length ≤ point.toNat then text ++ zeros (point.toNat - text.length) ++ ['.', '0']
      else text.take point.toNat ++ '.' :: text.drop point.toNat
    else
      let exponent := point - 1
      let size := Nat.toDigits 10 exponent.natAbs
      let mantissa := match text with
        | [digit] => [digit]
        | digit :: rest => digit :: '.' :: rest
        | [] => []
      mantissa ++ 'e' :: (if exponent < 0 then '-' else '+') :: zeros (2 - size.length) ++ size
  String.ofList written

/-- A number of double precision, where infinity and what is not a number have names. -/
def Decimal.write (infinity notANumber : String) : Decimal → String
  | .infinite negative => (if negative then "-" else "") ++ infinity
  | .notANumber => notANumber
  | .finite mantissa exponent negativeZero =>
    let sign := if negativeZero || mantissa < 0 then "-" else ""
    let size : Int := (Nat.toDigits 10 mantissa.natAbs).length + exponent
    let number? : Option (Option Double) :=
      if mantissa = 0 || size < -330 then some none
      else if 310 < size then none
      else (Double.ofRatio? (scaleDown 10 (mantissa.natAbs, 1) (-exponent))).map fun number =>
        if number.significand = 0 then none else some number
    sign ++ match number? with
      | none => infinity
      | some none => "0.0"
      | some (some number) =>
        let (digits, places) := number.shortest
        writePoint digits places

/-! ## Agreement -/

/-- The size of a number. -/
inductive Magnitude where
  | ratio (numerator : Int) (denominator : Nat)
  | infinite (negative : Bool)
  | undefined
deriving DecidableEq, Repr

/-- The size of a number of double precision. -/
def Decimal.magnitude : Decimal → Magnitude
  | .infinite negative => .infinite negative
  | .notANumber => .undefined
  | .finite mantissa exponent _ =>
    let size : Int := (Nat.toDigits 10 mantissa.natAbs).length + exponent
    if mantissa = 0 || size < -330 then .ratio 0 1
    else if 310 < size then .infinite (mantissa < 0)
    else match Double.ofRatio? (scaleDown 10 (mantissa.natAbs, 1) (-exponent)) with
      | none => .infinite (mantissa < 0)
      | some number =>
        let (numerator, denominator) := scaleDown 2 (number.significand, 1) (-number.exponent)
        .ratio (if mantissa < 0 then -numerator else numerator) denominator

/-- Are two numbers equal? -/
def Magnitude.agrees : Magnitude → Magnitude → Bool
  | .ratio n d, .ratio m e => n * e = m * d
  | .infinite first, .infinite second => first = second
  | _, _ => false

namespace Json

/-- The size of a value that counts as a number. -/
def magnitude? : Json → Option Magnitude
  | .bool value => some (.ratio (if value then 1 else 0) 1)
  | .integer value => some (.ratio value 1)
  | .decimal value => some value.magnitude
  | _ => none

mutual

/-- Do two values hold the same data? -/
def agrees : Json → Json → Bool
  | .null, .null => true
  | .text first, .text second => first = second
  | .list first, .list second => itemsAgree first second
  | .object first, .object second => first.length = second.length && fieldsAgree first second
  | first, second =>
    match first.magnitude?, second.magnitude? with
    | some first, some second => first.agrees second
    | _, _ => false

/-- Do the items of two lists agree one by one? -/
def itemsAgree : List Json → List Json → Bool
  | [], [] => true
  | first :: rest, second :: others => agrees first second && itemsAgree rest others
  | _, _ => false

/-- Do all fields agree with the fields of the same names in another object? -/
def fieldsAgree : List (String × Json) → List (String × Json) → Bool
  | [], _ => true
  | (name, value) :: rest, others =>
    (match get? others name with
      | some other => agrees value other
      | none => false) && fieldsAgree rest others

end

theorem agrees_text (first second : String) :
    agrees (.text first) (.text second) = true ↔ first = second := by
  simp [agrees]

theorem agrees_null (value : Json) : agrees .null value = true ↔ value = .null := by
  cases value <;> simp [agrees, magnitude?]

end Json

end PageBlocks
