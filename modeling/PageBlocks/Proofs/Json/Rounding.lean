import Mathlib.Algebra.Order.Floor.Semifield
import Mathlib.Data.Nat.Log
import Mathlib.Data.Rat.Floor
import Mathlib.Tactic.FieldSimp
import Mathlib.Tactic.Linarith
import Mathlib.Tactic.NormNum
import Mathlib.Tactic.Positivity
import Mathlib.Tactic.Ring
import Mathlib.Tactic.Zify
import PageBlocks.Json.Double
/-!
# Rounding to double precision

A positive ratio is rounded to the number of double precision whose neighbourhood it lies in: the
numbers that are nearer to it than to its two neighbours, and those in the middle where its significand
is even.

## Main results

* `roundRatio_eq` — the whole number nearest to a ratio.
* `Double.ofRatio?_of_admits` — a ratio that a number admits is rounded to that number.
* `Double.isCanonical_of_ofRatio?` — what a ratio is rounded to has all bits or the least exponent.
-/

namespace PageBlocks

/-! ## Ratios -/

/-- The number that a ratio is. -/
def ratio (pair : Nat × Nat) : ℚ :=
  pair.1 / pair.2

theorem ratio_scaleDown {base : Nat} (hbase : base ≠ 0) (pair : Nat × Nat) (exponent : Int) :
    ratio (scaleDown base pair exponent) = ratio pair / (base : ℚ) ^ exponent := by
  have hne : (base : ℚ) ≠ 0 := Nat.cast_ne_zero.2 hbase
  cases exponent with
  | ofNat power =>
    simp [ratio, scaleDown, div_div]
  | negSucc power =>
    simp [ratio, scaleDown, zpow_negSucc]
    ring

theorem scaleDown_snd_ne_zero {base : Nat} (hbase : base ≠ 0) {pair : Nat × Nat} (h : pair.2 ≠ 0)
    (exponent : Int) : (scaleDown base pair exponent).2 ≠ 0 := by
  cases exponent with
  | ofNat power =>
    have hpower : 0 < base.pow power := Nat.pow_pos (Nat.pos_of_ne_zero hbase)
    exact Nat.mul_ne_zero h (Nat.pos_iff_ne_zero.1 hpower)
  | negSucc power => exact h

/-- A ratio whose whole part is below a number is below it. -/
theorem div_lt_iff_ratio_lt (pair : Nat × Nat) (h : pair.2 ≠ 0) (bound : Nat) :
    pair.1 / pair.2 < bound ↔ ratio pair < bound := by
  have hpos : (0 : ℚ) < pair.2 := by exact_mod_cast Nat.pos_of_ne_zero h
  rw [Nat.div_lt_iff_lt_mul (Nat.pos_of_ne_zero h), ratio, div_lt_iff₀ hpos]
  exact_mod_cast Iff.rfl

/-- The nearest whole number, told by whole numbers alone. -/
theorem roundRatio_eq_of_le {numerator denominator nearest : Nat} (hdenominator : 0 < denominator)
    (hlow : 2 * nearest * denominator ≤ 2 * numerator + denominator)
    (hhigh : 2 * numerator ≤ 2 * nearest * denominator + denominator)
    (hends : nearest % 2 = 0 ∨ 2 * nearest * denominator < 2 * numerator + denominator ∧
      2 * numerator < 2 * nearest * denominator + denominator) :
    roundRatio numerator denominator = nearest := by
  have hdivision := Nat.div_add_mod numerator denominator
  have hrest := Nat.mod_lt numerator hdenominator
  have hcomm : nearest * denominator = denominator * nearest := Nat.mul_comm _ _
  simp only [Nat.mul_assoc] at hlow hhigh hends
  simp only [roundRatio]
  generalize numerator / denominator = quotient at *
  generalize numerator % denominator = rest at *
  obtain rfl | rfl : nearest = quotient ∨ nearest = quotient + 1 := by
    have hle : quotient ≤ nearest := by
      by_contra hlt
      have := Nat.mul_le_mul_left denominator (show nearest + 1 ≤ quotient by omega)
      rw [Nat.mul_succ] at this
      omega
    have hge : nearest ≤ quotient + 1 := by
      by_contra hlt
      have := Nat.mul_le_mul_left denominator (show quotient + 2 ≤ nearest by omega)
      rw [Nat.mul_add] at this
      omega
    omega
  · rw [if_neg]
    simp only [Bool.or_eq_true, Bool.and_eq_true, decide_eq_true_eq]
    omega
  · rw [Nat.mul_succ] at hcomm
    rw [if_pos]
    simp only [Bool.or_eq_true, Bool.and_eq_true, decide_eq_true_eq]
    omega

/-- The whole number nearest to a ratio; in the middle between two it is the even one. -/
theorem roundRatio_eq {pair : Nat × Nat} (hpair : pair.2 ≠ 0) {nearest : Nat}
    (hlow : (nearest : ℚ) - 1 / 2 ≤ ratio pair) (hhigh : ratio pair ≤ nearest + 1 / 2)
    (hends : nearest % 2 = 0 ∨ (nearest : ℚ) - 1 / 2 < ratio pair ∧ ratio pair < nearest + 1 / 2) :
    roundRatio pair.1 pair.2 = nearest := by
  obtain ⟨numerator, denominator⟩ := pair
  have hpos : (0 : ℚ) < denominator := by exact_mod_cast Nat.pos_of_ne_zero hpair
  have hratio : ratio (numerator, denominator) * denominator = numerator :=
    div_mul_cancel₀ _ hpos.ne'
  refine roundRatio_eq_of_le (Nat.pos_of_ne_zero hpair) ?_ ?_
    (hends.imp_right fun ⟨hlow, hhigh⟩ => ⟨?_, ?_⟩)
  · have := mul_le_mul_of_nonneg_right hlow hpos.le
    rw [hratio] at this
    have : (2 * nearest * denominator : ℚ) ≤ 2 * numerator + denominator := by linarith
    exact_mod_cast this
  · have := mul_le_mul_of_nonneg_right hhigh hpos.le
    rw [hratio] at this
    have : (2 * numerator : ℚ) ≤ 2 * nearest * denominator + denominator := by linarith
    exact_mod_cast this
  · have := mul_lt_mul_of_pos_right hlow hpos
    rw [hratio] at this
    have : (2 * nearest * denominator : ℚ) < 2 * numerator + denominator := by linarith
    exact_mod_cast this
  · have := mul_lt_mul_of_pos_right hhigh hpos
    rw [hratio] at this
    have : (2 * numerator : ℚ) < 2 * nearest * denominator + denominator := by linarith
    exact_mod_cast this

namespace Double

/-- Is a number one that is rounded to: one with all of its bits, or one with the least exponent? -/
structure IsCanonical (number : Double) : Prop where
  significand_lt : number.significand < 2 ^ 53
  minExponent_le : minExponent ≤ number.exponent
  le_maxExponent : number.exponent ≤ maxExponent
  isFull : 2 ^ 52 ≤ number.significand ∨ number.exponent = minExponent

/-- The number itself. -/
def toRat (number : Double) : ℚ :=
  number.significand * 2 ^ number.exponent

/-- How many quarters of the last place the numbers below a number reach that are rounded to it.  The
next number below a power of two is only half as far away as the next one above. -/
def below (number : Double) : Nat :=
  if number.significand = 2 ^ 52 ∧ minExponent < number.exponent then 1 else 2

/-- Is a positive number rounded to a number?  Those in the middle are where it is even. -/
structure Admits (number : Double) (x : ℚ) : Prop where
  low : (number.significand - number.below / 4 : ℚ) * 2 ^ number.exponent ≤ x
  high : x ≤ (number.significand + 1 / 2 : ℚ) * 2 ^ number.exponent
  ends : number.significand % 2 = 0 ∨
    (number.significand - number.below / 4 : ℚ) * 2 ^ number.exponent < x ∧
      x < (number.significand + 1 / 2 : ℚ) * 2 ^ number.exponent

/-! ## The exponent -/

/-- Does a number have 53 bits in front of the point at an exponent? -/
def InBinade (exponent : Int) (x : ℚ) : Prop :=
  2 ^ 52 * 2 ^ exponent ≤ x ∧ x < 2 ^ 53 * (2 : ℚ) ^ exponent

theorem two_zpow_pos (exponent : Int) : (0 : ℚ) < 2 ^ exponent :=
  zpow_pos (by norm_num) _

theorem two_zpow_succ (exponent : Int) : (2 : ℚ) ^ (exponent + 1) = 2 ^ exponent * 2 :=
  zpow_add_one₀ (by norm_num) _

theorem lt_of_two_zpow_mul_lt {scale : ℚ} (hscale : 0 < scale) {first second : Int}
    (h : scale * 2 ^ first < scale * 2 ^ second) : first < second :=
  (zpow_lt_zpow_iff_right₀ (by norm_num : (1 : ℚ) < 2)).1 (lt_of_mul_lt_mul_left h hscale.le)

/-- The logarithms of its two numbers tell a ratio up to a factor of four. -/
theorem ratio_between {pair : Nat × Nat} (hfirst : pair.1 ≠ 0) (hsecond : pair.2 ≠ 0)
    {guess : Int} (hguess : guess = (Nat.log2 pair.1 : Int) - Nat.log2 pair.2 - 53) :
    (2 : ℚ) ^ 52 * 2 ^ guess < ratio pair ∧ ratio pair < (2 : ℚ) ^ 54 * 2 ^ guess := by
  have hpos : (0 : ℚ) < pair.2 := by exact_mod_cast Nat.pos_of_ne_zero hsecond
  constructor
  · have hone : (2 : ℚ) ^ pair.1.log2 ≤ pair.1 := by exact_mod_cast Nat.log2_self_le hfirst
    have htwo : (pair.2 : ℚ) < 2 ^ (pair.2.log2 + 1) := by exact_mod_cast Nat.lt_log2_self
    rw [ratio, lt_div_iff₀ hpos]
    calc (2 : ℚ) ^ 52 * 2 ^ guess * pair.2
        < 2 ^ 52 * 2 ^ guess * 2 ^ (pair.2.log2 + 1) := by
          exact mul_lt_mul_of_pos_left htwo (mul_pos (by norm_num) (two_zpow_pos guess))
      _ = 2 ^ (pair.1.log2 : Int) := by
          rw [← zpow_natCast, ← zpow_natCast, ← zpow_add₀ (by norm_num), ← zpow_add₀ (by norm_num)]
          congr 1
          rw [hguess]
          push_cast
          ring
      _ ≤ pair.1 := by simpa using hone
  · have hone : (pair.1 : ℚ) < 2 ^ (pair.1.log2 + 1) := by exact_mod_cast Nat.lt_log2_self
    have htwo : (2 : ℚ) ^ pair.2.log2 ≤ pair.2 := by exact_mod_cast Nat.log2_self_le hsecond
    rw [ratio, div_lt_iff₀ hpos]
    calc (pair.1 : ℚ) < 2 ^ (pair.1.log2 + 1) := hone
      _ = 2 ^ 54 * 2 ^ guess * 2 ^ pair.2.log2 := by
          rw [← zpow_natCast, ← zpow_natCast, ← zpow_natCast, ← zpow_add₀ (by norm_num),
            ← zpow_add₀ (by norm_num)]
          congr 1
          rw [hguess]
          push_cast
          ring
      _ ≤ 2 ^ 54 * 2 ^ guess * pair.2 :=
          mul_le_mul_of_nonneg_left htwo (mul_pos (by norm_num) (two_zpow_pos guess)).le

/-- The exponent at which a ratio is rounded. -/
theorem exists_binade {pair : Nat × Nat} (hfirst : pair.1 ≠ 0) (hsecond : pair.2 ≠ 0) :
    ∃ binade, InBinade binade (ratio pair) ∧
      (if (scaleDown 2 pair ((Nat.log2 pair.1 : Int) - Nat.log2 pair.2 - 53)).1 /
          (scaleDown 2 pair ((Nat.log2 pair.1 : Int) - Nat.log2 pair.2 - 53)).2 < Nat.pow 2 53
        then (Nat.log2 pair.1 : Int) - Nat.log2 pair.2 - 53
        else (Nat.log2 pair.1 : Int) - Nat.log2 pair.2 - 53 + 1) = binade := by
  set guess : Int := (Nat.log2 pair.1 : Int) - Nat.log2 pair.2 - 53 with hguess
  obtain ⟨hlow, hhigh⟩ := ratio_between hfirst hsecond hguess
  have hwhole := div_lt_iff_ratio_lt (scaleDown 2 pair guess)
    (scaleDown_snd_ne_zero (by decide) hsecond guess) (2 ^ 53)
  rw [ratio_scaleDown (by decide), Nat.cast_ofNat, div_lt_iff₀ (two_zpow_pos guess)] at hwhole
  refine ⟨_, ?_, rfl⟩
  split
  · next hless =>
    have hless := hwhole.1 hless
    push_cast at hless
    exact ⟨hlow.le, hless⟩
  · next hmore =>
    have hmore := not_lt.1 (fun hless => hmore (hwhole.2 hless))
    push_cast at hmore
    rw [InBinade, two_zpow_succ]
    constructor <;> linarith

/-! ## Rounding -/

/-- Is a ratio rounded at an exponent?  A number that needs one bit more than there are has the next
exponent, and one that is too large is none. -/
def RoundsAt (pair : Nat × Nat) (exponent : Int) : Prop :=
  ∀ rounded, roundRatio (scaleDown 2 pair exponent).1 (scaleDown 2 pair exponent).2 = rounded →
    ofRatio? pair = if rounded = 2 ^ 53 then
        if maxExponent < exponent + 1 then none else some ⟨2 ^ 52, exponent + 1⟩
      else if maxExponent < exponent then none else some ⟨rounded, exponent⟩

/-- A ratio is rounded at the exponent of its binade, or at the least one. -/
theorem exists_roundsAt {pair : Nat × Nat} (hfirst : pair.1 ≠ 0) (hsecond : pair.2 ≠ 0) :
    ∃ binade, InBinade binade (ratio pair) ∧ RoundsAt pair (max minExponent binade) := by
  obtain ⟨binade, hbinade, hguess⟩ := exists_binade hfirst hsecond
  refine ⟨binade, hbinade, fun rounded hrounded => ?_⟩
  simp only [ofRatio?, hguess, hrounded, Nat.pow_eq]
  by_cases hfull : rounded = 2 ^ 53
  · rw [if_pos hfull, if_pos hfull]
  · rw [if_neg hfull, if_neg hfull]

/-- A scaled ratio is rounded to the whole number whose neighbourhood it lies in. -/
theorem roundRatio_scaleDown {pair : Nat × Nat} (hpair : pair.2 ≠ 0) (exponent : Int) (nearest : Nat)
    (hlow : (nearest - 1 / 2 : ℚ) * 2 ^ exponent ≤ ratio pair)
    (hhigh : ratio pair ≤ (nearest + 1 / 2 : ℚ) * 2 ^ exponent)
    (hends : nearest % 2 = 0 ∨ (nearest - 1 / 2 : ℚ) * 2 ^ exponent < ratio pair ∧
      ratio pair < (nearest + 1 / 2 : ℚ) * 2 ^ exponent) :
    roundRatio (scaleDown 2 pair exponent).1 (scaleDown 2 pair exponent).2 = nearest := by
  have hscale := two_zpow_pos exponent
  have hscaled : ratio (scaleDown 2 pair exponent) = ratio pair / 2 ^ exponent :=
    ratio_scaleDown (by decide) pair exponent
  refine roundRatio_eq (scaleDown_snd_ne_zero (by decide) hpair exponent) ?_ ?_ ?_
  · rwa [hscaled, le_div_iff₀ hscale]
  · rwa [hscaled, div_le_iff₀ hscale]
  · rwa [hscaled, lt_div_iff₀ hscale, div_lt_iff₀ hscale]

variable {number : Double} {pair : Nat × Nat}

theorem below_le (number : Double) : number.below ≤ 2 := by
  unfold below
  split <;> decide

theorem below_eq {number : Double} (h : ¬(number.significand = 2 ^ 52 ∧ minExponent < number.exponent)) :
    number.below = 2 :=
  if_neg h

theorem InBinade.le_of_le {binade exponent : Int} {x : ℚ} (h : InBinade binade x)
    (hx : 2 ^ 52 * 2 ^ exponent ≤ x) : exponent ≤ binade := by
  have hless : (2 : ℚ) ^ 52 * 2 ^ exponent < 2 ^ 52 * 2 ^ (binade + 1) := by
    rw [two_zpow_succ]
    have := h.2
    linarith
  have := lt_of_two_zpow_mul_lt (by norm_num) hless
  omega

theorem InBinade.lt_of_lt {binade exponent : Int} {x : ℚ} (h : InBinade binade x)
    (hx : x < 2 ^ 52 * 2 ^ exponent) : binade < exponent :=
  lt_of_two_zpow_mul_lt (by norm_num) (h.1.trans_lt hx)

/-- What a number admits is not above its binade. -/
theorem InBinade.le_exponent {binade : Int} (hbinade : InBinade binade (ratio pair))
    (hnumber : number.IsCanonical) (h : number.Admits (ratio pair)) : binade ≤ number.exponent := by
  have hscale := two_zpow_pos number.exponent
  have hsize : (number.significand : ℚ) + 1 ≤ 2 ^ 53 := by exact_mod_cast hnumber.significand_lt
  have hhigh := h.high
  have hless : ratio pair < 2 ^ 52 * 2 ^ (number.exponent + 1) := by
    rw [two_zpow_succ]
    nlinarith
  have := hbinade.lt_of_lt hless
  omega

/-- What is rounded at the exponent of a number has it for the nearest one. -/
theorem RoundsAt.eq_some (hround : RoundsAt pair number.exponent) (hnumber : number.IsCanonical)
    (hsecond : pair.2 ≠ 0)
    (hlow : (number.significand - 1 / 2 : ℚ) * 2 ^ number.exponent ≤ ratio pair)
    (hhigh : ratio pair ≤ (number.significand + 1 / 2 : ℚ) * 2 ^ number.exponent)
    (hends : number.significand % 2 = 0 ∨
      (number.significand - 1 / 2 : ℚ) * 2 ^ number.exponent < ratio pair ∧
        ratio pair < (number.significand + 1 / 2 : ℚ) * 2 ^ number.exponent) :
    ofRatio? pair = some number := by
  obtain ⟨hbits, hmin, hmax, hfull⟩ := hnumber
  rw [hround number.significand (roundRatio_scaleDown hsecond _ _ hlow hhigh hends),
    if_neg (by omega), if_neg (by omega)]

/-- A power of two that is not reached from above is rounded to from the binade below it. -/
theorem ofRatio?_of_power {exponent binade : Int} (hmin : minExponent < exponent)
    (hmax : exponent ≤ maxExponent) (hbinade : InBinade binade (ratio pair))
    (hround : RoundsAt pair (max minExponent binade)) (hsecond : pair.2 ≠ 0)
    (hlow : (2 ^ 52 - 1 / 4 : ℚ) * 2 ^ exponent ≤ ratio pair)
    (hhigh : ratio pair < 2 ^ 52 * 2 ^ exponent) : ofRatio? pair = some ⟨2 ^ 52, exponent⟩ := by
  obtain ⟨lower, rfl⟩ : ∃ lower, exponent = lower + 1 := ⟨exponent - 1, by omega⟩
  have hlt : binade < lower + 1 := hbinade.lt_of_lt hhigh
  rw [two_zpow_succ] at hlow hhigh
  have hscale := two_zpow_pos lower
  have hge : lower ≤ binade := hbinade.le_of_le (by linarith)
  have hexponent : max minExponent binade = lower := by omega
  rw [hexponent] at hround
  have hrounded := roundRatio_scaleDown hsecond lower (2 ^ 53)
    (by push_cast; linarith) (by push_cast; linarith) (.inl rfl)
  rw [hround (2 ^ 53) hrounded, if_pos rfl, if_neg (by omega)]

/-- A ratio that a number admits is rounded to that number. -/
theorem ofRatio?_of_admits (hnumber : number.IsCanonical) (hfirst : pair.1 ≠ 0) (hsecond : pair.2 ≠ 0)
    (h : number.Admits (ratio pair)) : ofRatio? pair = some number := by
  obtain ⟨binade, hbinade, hround⟩ := exists_roundsAt hfirst hsecond
  have hle := hbinade.le_exponent hnumber h
  obtain ⟨hlow, hhigh, hends⟩ := h
  have hmin := hnumber.minExponent_le
  have hscale := two_zpow_pos number.exponent
  by_cases hpower : number.significand = 2 ^ 52 ∧ minExponent < number.exponent
  · have hquarter : (2 ^ 52 - 1 / 4 : ℚ) * 2 ^ number.exponent ≤ ratio pair := by
      rw [below, if_pos hpower, hpower.1] at hlow
      push_cast at hlow
      exact hlow
    by_cases hx : 2 ^ 52 * 2 ^ number.exponent ≤ ratio pair
    · have hge := hbinade.le_of_le hx
      rw [show max minExponent binade = number.exponent by omega] at hround
      have hsize : (number.significand : ℚ) = 2 ^ 52 := by exact_mod_cast hpower.1
      refine hround.eq_some hnumber hsecond ?_ hhigh (.inl (by omega))
      rw [hsize]
      linarith
    · obtain ⟨significand, exponent⟩ := number
      obtain ⟨rfl, hgreater⟩ := hpower
      exact ofRatio?_of_power hgreater hnumber.le_maxExponent hbinade hround hsecond hquarter
        (not_le.1 hx)
  · have hhalf : ((2 : Nat) : ℚ) / 4 = 1 / 2 := by norm_num
    rw [below_eq hpower, hhalf] at hlow hends
    have hexponent : max minExponent binade = number.exponent := by
      obtain hfull | hleast := hnumber.isFull
      · by_cases hleast : number.exponent = minExponent
        · omega
        · have hmore : (2 : ℚ) ^ 52 + 1 ≤ number.significand := by
            have : 2 ^ 52 < number.significand := by omega
            exact_mod_cast this
          have hge : number.exponent ≤ binade := hbinade.le_of_le (by nlinarith)
          omega
      · omega
    rw [hexponent] at hround
    exact hround.eq_some hnumber hsecond hlow hhigh hends

/-- The whole number that a ratio is rounded to is less than one away. -/
theorem roundRatio_bounds (numerator denominator : Nat) :
    numerator / denominator ≤ roundRatio numerator denominator ∧
      roundRatio numerator denominator ≤ numerator / denominator + 1 := by
  simp only [roundRatio]
  split <;> omega

/-- What a ratio is rounded to has all of its bits or the least exponent. -/
theorem isCanonical_of_ofRatio? (hfirst : pair.1 ≠ 0) (hsecond : pair.2 ≠ 0)
    (h : ofRatio? pair = some number) : number.IsCanonical := by
  obtain ⟨binade, ⟨hstart, hend⟩, hround⟩ := exists_roundsAt hfirst hsecond
  have hbounds := roundRatio_bounds (scaleDown 2 pair (max minExponent binade)).1
    (scaleDown 2 pair (max minExponent binade)).2
  have hscaled : ratio (scaleDown 2 pair (max minExponent binade)) =
      ratio pair / 2 ^ max minExponent binade := ratio_scaleDown (by decide) pair _
  have hscale := two_zpow_pos (max minExponent binade)
  have hwhole (bound : Nat) := div_lt_iff_ratio_lt (scaleDown 2 pair (max minExponent binade))
    (scaleDown_snd_ne_zero (by decide) hsecond _) bound
  rw [hscaled] at hwhole
  have hupper : (scaleDown 2 pair (max minExponent binade)).1 /
      (scaleDown 2 pair (max minExponent binade)).2 < 2 ^ 53 := by
    rw [hwhole, div_lt_iff₀ hscale]
    push_cast
    have hmono : (2 : ℚ) ^ binade ≤ 2 ^ max minExponent binade :=
      zpow_le_zpow_right₀ (by norm_num) (le_max_right _ _)
    linarith
  have hlower : minExponent < binade → 2 ^ 52 ≤ (scaleDown 2 pair (max minExponent binade)).1 /
      (scaleDown 2 pair (max minExponent binade)).2 := by
    intro hmin
    by_contra hless
    have := (hwhole (2 ^ 52)).1 (not_le.1 hless)
    rw [div_lt_iff₀ hscale, max_eq_right hmin.le] at this
    push_cast at this
    linarith
  rw [hround _ rfl] at h
  split at h
  · split at h
    · cases h
    · cases h
      refine ⟨?_, ?_, ?_, ?_⟩ <;> dsimp only <;> omega
  · split at h
    · cases h
    · cases h
      refine ⟨?_, ?_, ?_, ?_⟩ <;> dsimp only <;> omega

end Double

end PageBlocks
