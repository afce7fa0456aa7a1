import PageBlocks.Proofs.Json.Decimal
import PageBlocks.Proofs.Json.Rounding
/-!
# The fewest digits

Of the numbers with a certain count of digits one is taken that a number of double precision admits,
for the least count for which there is one.  Seventeen digits are always enough: there are so many
numbers with seventeen digits that one of the two next to a number is nearer than any other number of
double precision.

## Main results

* `decimalLength_spec` — between which powers of ten a ratio lies.
* `Double.admits_of_withDigits?` — the digits that are taken are admitted.
* `Double.admits_shortest` — so are the fewest ones, without the zeros at their end.
-/

namespace PageBlocks

/-! ## Powers of ten -/

theorem ten_zpow_pos (exponent : Int) : (0 : ℚ) < 10 ^ exponent :=
  zpow_pos (by norm_num) _

theorem lt_iff_ratio_lt_one (pair : Nat × Nat) (h : pair.2 ≠ 0) : pair.1 < pair.2 ↔ ratio pair < 1 := by
  have hpos : (0 : ℚ) < pair.2 := by exact_mod_cast Nat.pos_of_ne_zero h
  rw [ratio, div_lt_one hpos]
  exact_mod_cast Iff.rfl

theorem ten_zpow_length_le {value : Nat} (h : value ≠ 0) :
    (10 : ℚ) ^ (((Nat.toDigits 10 value).length : Int) - 1) ≤ value := by
  have hlength : 0 < (Nat.toDigits 10 value).length :=
    List.length_pos_iff.2 (Json.isWhole_toDigits value).ne_nil
  obtain ⟨less, hless⟩ : ∃ less, (Nat.toDigits 10 value).length = less + 1 :=
    ⟨(Nat.toDigits 10 value).length - 1, by omega⟩
  have hle : 10 ^ less ≤ value := by
    by_cases hzero : less = 0
    · rw [hzero]
      omega
    · by_contra hgreater
      have hfew := (Nat.length_toDigits_le_iff (by decide) (Nat.pos_of_ne_zero hzero)).2
        (not_le.1 hgreater)
      omega
  rw [hless]
  have hcast : ((less + 1 : Nat) : Int) - 1 = less := by omega
  rw [hcast, zpow_natCast]
  exact_mod_cast hle

theorem lt_ten_zpow_length (value : Nat) :
    (value : ℚ) < (10 : ℚ) ^ ((Nat.toDigits 10 value).length : Int) := by
  have hlength : 0 < (Nat.toDigits 10 value).length :=
    List.length_pos_iff.2 (Json.isWhole_toDigits value).ne_nil
  have hless := (Nat.length_toDigits_le_iff (by decide) hlength).1 le_rfl
  rw [zpow_natCast]
  exact_mod_cast hless

/-- A positive ratio lies between the power of ten of its length and the one before. -/
theorem decimalLength_spec {pair : Nat × Nat} (hfirst : pair.1 ≠ 0) (hsecond : pair.2 ≠ 0) :
    (10 : ℚ) ^ (Double.decimalLength pair - 1) ≤ ratio pair ∧
      ratio pair < 10 ^ Double.decimalLength pair := by
  have hpos : (0 : ℚ) < pair.2 := by exact_mod_cast Nat.pos_of_ne_zero hsecond
  simp only [Double.decimalLength]
  set guess : Int := (Nat.toDigits 10 pair.1).length - (Nat.toDigits 10 pair.2).length with hguess
  have hscale := ten_zpow_pos guess
  have hlow : (10 : ℚ) ^ (guess - 1) ≤ ratio pair := by
    rw [ratio, le_div_iff₀ hpos]
    calc (10 : ℚ) ^ (guess - 1) * pair.2
        ≤ 10 ^ (guess - 1) * 10 ^ ((Nat.toDigits 10 pair.2).length : Int) :=
          mul_le_mul_of_nonneg_left (lt_ten_zpow_length pair.2).le (ten_zpow_pos _).le
      _ = 10 ^ (((Nat.toDigits 10 pair.1).length : Int) - 1) := by
          rw [← zpow_add₀ (by norm_num)]
          congr 1
          omega
      _ ≤ pair.1 := ten_zpow_length_le hfirst
  have hhigh : ratio pair < (10 : ℚ) ^ (guess + 1) := by
    rw [ratio, div_lt_iff₀ hpos]
    calc (pair.1 : ℚ) < 10 ^ ((Nat.toDigits 10 pair.1).length : Int) := lt_ten_zpow_length pair.1
      _ = 10 ^ (guess + 1) * 10 ^ (((Nat.toDigits 10 pair.2).length : Int) - 1) := by
          rw [← zpow_add₀ (by norm_num)]
          congr 1
          omega
      _ ≤ 10 ^ (guess + 1) * pair.2 :=
          mul_le_mul_of_nonneg_left (ten_zpow_length_le hsecond) (ten_zpow_pos _).le
  have hscaled := lt_iff_ratio_lt_one (scaleDown 10 pair guess)
    (scaleDown_snd_ne_zero (by decide) hsecond guess)
  rw [ratio_scaleDown (by decide), Nat.cast_ofNat, div_lt_one hscale] at hscaled
  split
  · next hless => exact ⟨hlow, hscaled.1 hless⟩
  · next hmore =>
    rw [add_sub_cancel_right]
    exact ⟨not_lt.1 fun hless => hmore (hscaled.2 hless), hhigh⟩

/-! ## Numbers between two ratios -/

variable {low high : Nat × Nat} {withEnds : Bool} {digits : Nat}

theorem isBetween_spec (hlow : low.2 ≠ 0) (hhigh : high.2 ≠ 0)
    (h : isBetween low high withEnds digits = true) :
    ratio low ≤ digits ∧ digits ≤ ratio high ∧
      (withEnds = true ∨ ratio low < digits ∧ digits < ratio high) := by
  have hl : (0 : ℚ) < low.2 := by exact_mod_cast Nat.pos_of_ne_zero hlow
  have hh : (0 : ℚ) < high.2 := by exact_mod_cast Nat.pos_of_ne_zero hhigh
  rw [ratio, ratio, div_le_iff₀ hl, le_div_iff₀ hh, div_lt_iff₀ hl, lt_div_iff₀ hh]
  simp only [isBetween, Bool.and_eq_true, Bool.or_eq_true, decide_eq_true_eq] at h
  refine ⟨?_, ?_, ?_⟩
  · have : low.1 ≤ digits * low.2 := by omega
    exact_mod_cast this
  · have : digits * high.2 ≤ high.1 := by omega
    exact_mod_cast this
  · cases withEnds with
    | true => exact .inl rfl
    | false =>
      have hless : low.1 < digits * low.2 ∧ digits * high.2 < high.1 := by simpa using h
      exact .inr (by exact_mod_cast hless)

theorem isBetween_of_lt (hlow : low.2 ≠ 0) (hhigh : high.2 ≠ 0) (hl : ratio low < digits)
    (hh : digits < ratio high) : isBetween low high withEnds digits = true := by
  have hlpos : (0 : ℚ) < low.2 := by exact_mod_cast Nat.pos_of_ne_zero hlow
  have hhpos : (0 : ℚ) < high.2 := by exact_mod_cast Nat.pos_of_ne_zero hhigh
  rw [ratio, div_lt_iff₀ hlpos] at hl
  rw [ratio, lt_div_iff₀ hhpos] at hh
  have hlower : low.1 < digits * low.2 := by exact_mod_cast hl
  have hupper : digits * high.2 < high.1 := by exact_mod_cast hh
  simp [isBetween, hlower, hupper]

namespace Double

variable {number : Double} {count : Nat} {places : Int}

/-! ## Digits for a number -/

theorem quarters_snd_ne_zero (number : Double) (quarter : Nat) : (number.quarters quarter).2 ≠ 0 :=
  scaleDown_snd_ne_zero (by decide) Nat.one_ne_zero _

theorem ratio_quarters (number : Double) (quarter : Nat) :
    ratio (number.quarters quarter) = quarter / 4 * 2 ^ number.exponent := by
  have hscale := (two_zpow_pos number.exponent).ne'
  rw [quarters, ratio_scaleDown (by decide), ratio]
  push_cast
  rw [zpow_sub₀ (by norm_num), div_one]
  field_simp
  norm_num

/-- A multiple of a quarter of the last place, in units of a decimal place. -/
def scaled (number : Double) (places : Int) (quarter : Nat) : Nat × Nat :=
  scaleDown 10 (number.quarters quarter) (-places)

theorem scaled_snd_ne_zero (number : Double) (places : Int) (quarter : Nat) :
    (number.scaled places quarter).2 ≠ 0 :=
  scaleDown_snd_ne_zero (by decide) (number.quarters_snd_ne_zero quarter) _

theorem ratio_scaled (number : Double) (places : Int) (quarter : Nat) :
    ratio (number.scaled places quarter) = quarter / 4 * 2 ^ number.exponent * 10 ^ places := by
  rw [scaled, ratio_scaleDown (by decide), ratio_quarters, Nat.cast_ofNat, zpow_neg, div_inv_eq_mul]

theorem ratio_scaled_low (h : number.significand ≠ 0) (places : Int) :
    ratio (number.scaled places (4 * number.significand - number.below)) =
      (number.significand - number.below / 4 : ℚ) * 2 ^ number.exponent * 10 ^ places := by
  have hbelow := number.below_le
  rw [ratio_scaled, Nat.cast_sub (by omega)]
  push_cast
  ring

theorem ratio_scaled_high (number : Double) (places : Int) :
    ratio (number.scaled places (4 * number.significand + 2)) =
      (number.significand + 1 / 2 : ℚ) * 2 ^ number.exponent * 10 ^ places := by
  rw [ratio_scaled]
  push_cast
  ring

/-- How many of the digits of a certain count are behind the point. -/
def placesFor (number : Double) (count : Nat) : Int :=
  count - decimalLength (number.quarters (4 * number.significand))

/-- Is a number of units of a decimal place in the neighbourhood of a number? -/
def reaches (number : Double) (places : Int) (digits : Nat) : Bool :=
  isBetween (number.scaled places (4 * number.significand - number.below))
    (number.scaled places (4 * number.significand + 2)) (number.significand % 2 = 0) digits

/-- The units of a decimal place in a number. -/
def units (number : Double) (places : Int) : Nat :=
  (number.scaled places (4 * number.significand)).1 /
    (number.scaled places (4 * number.significand)).2

/-- The digits for a number are its units, or one more of them. -/
theorem withDigits?_eq (number : Double) (count : Nat) :
    number.withDigits? count =
      match number.reaches (number.placesFor count) (number.units (number.placesFor count)),
        number.reaches (number.placesFor count) (number.units (number.placesFor count) + 1) with
      | true, true => some (roundRatio
          (number.scaled (number.placesFor count) (4 * number.significand)).1
          (number.scaled (number.placesFor count) (4 * number.significand)).2, number.placesFor count)
      | true, false => some (number.units (number.placesFor count), number.placesFor count)
      | false, true => some (number.units (number.placesFor count) + 1, number.placesFor count)
      | false, false => none := by
  have hbelow : number.below =
      if number.significand = Nat.pow 2 52 && minExponent < number.exponent then 1 else 2 := by
    simp [below]
  simp only [reaches, hbelow]
  rfl

theorem reaches_of_withDigits? (h : number.withDigits? count = some (digits, places)) :
    number.reaches places digits = true := by
  rw [withDigits?_eq] at h
  split at h
  · next hunits hnext =>
    cases h
    have hbounds := roundRatio_bounds (number.scaled (number.placesFor count) (4 * number.significand)).1
      (number.scaled (number.placesFor count) (4 * number.significand)).2
    obtain heq | heq : roundRatio (number.scaled (number.placesFor count) (4 * number.significand)).1
        (number.scaled (number.placesFor count) (4 * number.significand)).2 =
          number.units (number.placesFor count) ∨
        roundRatio (number.scaled (number.placesFor count) (4 * number.significand)).1
          (number.scaled (number.placesFor count) (4 * number.significand)).2 =
          number.units (number.placesFor count) + 1 := by
      unfold units
      omega
    · rw [heq]
      exact hunits
    · rw [heq]
      exact hnext
  · next hunits _ =>
    cases h
    exact hunits
  · next _ hnext =>
    cases h
    exact hnext
  · cases h

/-- Digits in the neighbourhood of a number are admitted. -/
theorem admits_of_reaches (hnumber : number.significand ≠ 0) (h : number.reaches places digits = true) :
    number.Admits (digits / 10 ^ places) := by
  have hscale := ten_zpow_pos places
  obtain ⟨hlow, hhigh, hends⟩ := isBetween_spec (number.scaled_snd_ne_zero places _)
    (number.scaled_snd_ne_zero places _) h
  rw [ratio_scaled_low hnumber] at hlow hends
  rw [ratio_scaled_high] at hhigh hends
  refine ⟨(le_div_iff₀ hscale).2 hlow, (div_le_iff₀ hscale).2 hhigh, ?_⟩
  rw [lt_div_iff₀ hscale, div_lt_iff₀ hscale]
  simpa using hends

/-- The digits that are taken are admitted. -/
theorem admits_of_withDigits? (hnumber : number.significand ≠ 0)
    (h : number.withDigits? count = some (digits, places)) : number.Admits (digits / 10 ^ places) :=
  admits_of_reaches hnumber (reaches_of_withDigits? h)

/-! ## Seventeen digits -/

theorem ten_pow_le_units (hnumber : number.significand ≠ 0) :
    (10 : ℚ) ^ 16 ≤ number.significand * 2 ^ number.exponent * 10 ^ number.placesFor 17 := by
  have hmiddle : (number.quarters (4 * number.significand)).1 ≠ 0 :=
    scaleDown_ne_zero (Nat.mul_ne_zero (by decide) hnumber) (by decide) _
  have hlength := (decimalLength_spec hmiddle (number.quarters_snd_ne_zero _)).1
  rw [ratio_quarters] at hlength
  have hquarter : ((4 * number.significand : Nat) : ℚ) / 4 = number.significand := by
    push_cast
    ring
  rw [hquarter] at hlength
  calc (10 : ℚ) ^ 16
      = 10 ^ (decimalLength (number.quarters (4 * number.significand)) - 1) *
          10 ^ number.placesFor 17 := by
        rw [← zpow_add₀ (by norm_num), placesFor, ← zpow_natCast]
        congr 1
        push_cast
        ring
    _ ≤ number.significand * 2 ^ number.exponent * 10 ^ number.placesFor 17 :=
        mul_le_mul_of_nonneg_right hlength (ten_zpow_pos _).le

/-- The units of a number are the whole ones in it. -/
theorem units_floor (number : Double) (places : Int) :
    (number.units places : ℚ) ≤ number.significand * (2 ^ number.exponent * 10 ^ places) ∧
      (number.significand : ℚ) * (2 ^ number.exponent * 10 ^ places) < number.units places + 1 := by
  have hratio : ((number.scaled places (4 * number.significand)).1 : ℚ) /
      (number.scaled places (4 * number.significand)).2 =
        number.significand * (2 ^ number.exponent * 10 ^ places) := by
    have hscaled := number.ratio_scaled places (4 * number.significand)
    rw [ratio] at hscaled
    rw [hscaled]
    push_cast
    ring
  have hdivision := Nat.floor_div_eq_div (K := ℚ) (number.scaled places (4 * number.significand)).1
    (number.scaled places (4 * number.significand)).2
  rw [hratio] at hdivision
  have hscale := mul_pos (two_zpow_pos number.exponent) (ten_zpow_pos places)
  rw [units, ← hdivision]
  exact ⟨Nat.floor_le (by positivity), Nat.lt_floor_add_one _⟩

/-- Where a number has seventeen digits, half of its last place is more than half a unit, also towards
the number below it. -/
theorem half_unit_lt (hcanonical : number.IsCanonical) {place : ℚ}
    (hunits : (10 : ℚ) ^ 16 ≤ number.significand * place) :
    1 / 2 < (number.below / 4 : ℚ) * place ∧ 1 / 2 < 1 / 2 * place := by
  have hsize : (number.significand : ℚ) < 2 ^ 53 := by exact_mod_cast hcanonical.significand_lt
  have hhalf : 1 / 2 < 1 / 2 * place := by nlinarith
  refine ⟨?_, hhalf⟩
  unfold below
  split
  · next hpower =>
    rw [hpower.1] at hunits
    push_cast at hunits ⊢
    linarith
  · push_cast
    linarith

/-- One of the two numbers with seventeen digits around a number is admitted. -/
theorem withDigits?_seventeen_ne_none (hcanonical : number.IsCanonical)
    (hnumber : number.significand ≠ 0) : number.withDigits? 17 ≠ none := by
  have hunits := ten_pow_le_units hnumber
  obtain ⟨hfloor, hceiling⟩ := number.units_floor (number.placesFor 17)
  set places := number.placesFor 17 with hplaces
  set place : ℚ := 2 ^ number.exponent * 10 ^ places with hplace
  rw [mul_assoc, ← hplace] at hunits
  obtain ⟨hlow, hhigh⟩ := half_unit_lt hcanonical hunits
  have hreaches {digits : Nat} (hbelow : number.significand * place - 1 / 2 ≤ (digits : ℚ))
      (habove : (digits : ℚ) ≤ number.significand * place + 1 / 2) :
      number.reaches places digits = true := by
    refine isBetween_of_lt (number.scaled_snd_ne_zero _ _) (number.scaled_snd_ne_zero _ _) ?_ ?_
    · rw [ratio_scaled_low hnumber, mul_assoc, ← hplace]
      linarith
    · rw [ratio_scaled_high, mul_assoc, ← hplace]
      linarith
  rw [withDigits?_eq, ← hplaces]
  by_cases hnear : number.significand * place - 1 / 2 ≤ number.units places
  · rw [hreaches hnear (by linarith)]
    split <;> simp_all
  · have hnext : number.reaches places (number.units places + 1) = true :=
      hreaches (by push_cast; linarith) (by push_cast; linarith)
    rw [hnext]
    split <;> simp_all

end Double

theorem dropZeros_eq (fuel value : Nat) :
    value = (dropZeros fuel value).1 * 10 ^ (dropZeros fuel value).2 := by
  induction fuel generalizing value with
  | zero => simp [dropZeros]
  | succ fuel ih =>
    rw [dropZeros]
    split
    · next hten =>
      have hrest := ih (value / 10)
      simp only [Nat.pow_succ, ← Nat.mul_assoc, ← hrest]
      omega
    · simp

/-- The fewest digits of a number are admitted. -/
theorem Double.admits_shortest {number : Double} (hcanonical : number.IsCanonical)
    (hnumber : number.significand ≠ 0) :
    number.Admits (number.shortest.1 / 10 ^ number.shortest.2) := by
  obtain ⟨digits, places, hfound, hadmits⟩ : ∃ digits places,
      ((List.range 17).findSome? fun count => number.withDigits? (count + 1)) = some (digits, places) ∧
        number.Admits (digits / 10 ^ places) := by
    cases hfind : (List.range 17).findSome? fun count => number.withDigits? (count + 1) with
    | none =>
      have hall := List.findSome?_eq_none_iff.1 hfind 16 (by simp)
      exact absurd hall (withDigits?_seventeen_ne_none hcanonical hnumber)
    | some found =>
      obtain ⟨count, -, hcount⟩ := List.exists_of_findSome?_eq_some hfind
      exact ⟨found.1, found.2, rfl, admits_of_withDigits? hnumber hcount⟩
  have hvalue : (number.shortest.1 : ℚ) / 10 ^ number.shortest.2 = digits / 10 ^ places := by
    have hdropped : (digits : ℚ) = (dropZeros 20 digits).1 * 10 ^ (dropZeros 20 digits).2 := by
      exact_mod_cast dropZeros_eq 20 digits
    simp only [shortest, hfound, Option.getD_some]
    rw [zpow_sub₀ (by norm_num), zpow_natCast, hdropped]
    field_simp
  rwa [hvalue]

end PageBlocks
