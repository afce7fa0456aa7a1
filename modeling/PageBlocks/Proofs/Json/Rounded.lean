import PageBlocks.Proofs.Json.Reread
import PageBlocks.Proofs.Json.Shortest
/-!
# Decimals as numbers of double precision

A decimal stands for the number of double precision that is nearest to it.  What is written for it is
another decimal, with fewer digits or more, but one that stands for the same number: its digits are
admitted by the number.

## Main results

* `Decimal.nearest?_of_admits` — a decimal that a number admits stands for it.
* `Decimal.rounded_rounded` — a rounded decimal is left alone.
* `Json.exists_rereadsAs` — what is written for a value is read as the same value, up to decimals that
  stand for the same numbers.
-/

namespace PageBlocks

/-! ## The nearest number -/

namespace Double

/-- A number as a decimal with all of its digits. -/
def exactly (isNegative : Bool) (number : Double) : Decimal :=
  .finite (Json.Numeral.signed isNegative (number.significand *
    if 0 ≤ number.exponent then 2 ^ number.exponent.toNat else 5 ^ (-number.exponent).toNat))
    (min number.exponent 0) false

end Double

namespace Decimal

/-- The number nearest to a decimal but for the sign, where `some none` is zero and `none` is beyond the
range. -/
def nearest? (mantissa exponent : Int) : Option (Option Double) :=
  let size : Int := (Nat.toDigits 10 mantissa.natAbs).length + exponent
  if mantissa = 0 || size < -330 then some none
  else if 310 < size then none
  else (Double.ofRatio? (scaleDown 10 (mantissa.natAbs, 1) (-exponent))).map fun number =>
    if number.significand = 0 then none else some number

/-- Is a decimal below zero, or the zero that has a sign? -/
def isNegative : Decimal → Bool
  | finite mantissa _ negativeZero => negativeZero || mantissa < 0
  | infinite negative => negative
  | notANumber => false

/-- The number of double precision that a decimal stands for. -/
def rounded : Decimal → Decimal
  | finite mantissa exponent negativeZero =>
    match nearest? mantissa exponent with
    | none => infinite (isNegative (finite mantissa exponent negativeZero))
    | some none => finite 0 0 (isNegative (finite mantissa exponent negativeZero))
    | some (some number) => number.exactly (isNegative (finite mantissa exponent negativeZero))
  | value => value

/-- Does a decimal stand for a number that is finite? -/
def isFinite (value : Decimal) : Bool :=
  match value.rounded with
  | finite .. => true
  | _ => false

theorem write_finite (infinity notANumber : String) (mantissa exponent : Int) (negativeZero : Bool) :
    write infinity notANumber (finite mantissa exponent negativeZero) =
      (if isNegative (finite mantissa exponent negativeZero) then "-" else "") ++
        match nearest? mantissa exponent with
        | none => infinity
        | some none => "0.0"
        | some (some number) => writePoint number.shortest.1 number.shortest.2 := by
  rw [write, nearest?]
  rfl

theorem rounded_finite (mantissa exponent : Int) (negativeZero : Bool) :
    rounded (finite mantissa exponent negativeZero) =
      match nearest? mantissa exponent with
      | none => infinite (isNegative (finite mantissa exponent negativeZero))
      | some none => finite 0 0 (isNegative (finite mantissa exponent negativeZero))
      | some (some number) => number.exactly (isNegative (finite mantissa exponent negativeZero)) := rfl

theorem ratio_scaleDown_natAbs (mantissa exponent : Int) :
    ratio (scaleDown 10 (mantissa.natAbs, 1) (-exponent)) = mantissa.natAbs * 10 ^ exponent := by
  rw [ratio_scaleDown (by decide), ratio, zpow_neg, div_inv_eq_mul]
  simp

variable {mantissa exponent : Int} {number : Double}

theorem isCanonical_of_nearest? (h : nearest? mantissa exponent = some (some number)) :
    number.IsCanonical ∧ number.significand ≠ 0 := by
  simp only [nearest?] at h
  split at h
  · cases h
  next hsome =>
  split at h
  · cases h
  obtain ⟨other, hother, heq⟩ := Option.map_eq_some_iff.1 h
  split at heq
  · cases heq
  next hne =>
  cases heq
  simp only [Bool.or_eq_true, decide_eq_true_eq, not_or] at hsome
  exact ⟨Double.isCanonical_of_ofRatio?
    (scaleDown_ne_zero (Int.natAbs_ne_zero.2 hsome.1) (by decide) _)
    (scaleDown_snd_ne_zero (by decide) Nat.one_ne_zero _) hother, hne⟩

theorem ten_zpow_neg_le (bits digits : Nat) (h : 2 ^ (bits + 1) ≤ 10 ^ digits) :
    (10 : ℚ) ^ (-(digits : Int)) ≤ 1 / 2 * 2 ^ (-(bits : Int)) := by
  have hpower : (2 : ℚ) * 2 ^ bits ≤ 10 ^ digits := by
    rw [← pow_succ']
    exact_mod_cast h
  rw [zpow_neg, zpow_neg, zpow_natCast, zpow_natCast, one_div, ← mul_inv]
  exact inv_anti₀ (by positivity) hpower

theorem two_zpow_lt (bits digits : Nat) (h : 2 ^ (53 + bits) < 10 ^ digits) :
    (2 : ℚ) ^ 53 * 2 ^ (bits : Int) < 10 ^ (digits : Int) := by
  rw [zpow_natCast, zpow_natCast, ← pow_add]
  exact_mod_cast h

/-- The first bound lies below all numbers with 53 bits that are not zero, the second one above. -/
theorem bounds_of_admits (hcanonical : number.IsCanonical) (hnumber : number.significand ≠ 0) {x : ℚ}
    (h : number.Admits x) : (10 : ℚ) ^ (-331 : Int) ≤ x ∧ x < 10 ^ (310 : Int) := by
  have hscale := Double.two_zpow_pos number.exponent
  have hone : (1 : ℚ) ≤ number.significand := by exact_mod_cast Nat.pos_of_ne_zero hnumber
  have hbits : (number.significand : ℚ) + 1 ≤ 2 ^ 53 := by exact_mod_cast hcanonical.significand_lt
  have hbelow : (number.below : ℚ) ≤ 2 := by exact_mod_cast number.below_le
  have hleast := ten_zpow_neg_le 1074 331 (by decide +kernel)
  have hgreatest := two_zpow_lt 971 310 (by decide +kernel)
  simp only [Nat.cast_ofNat] at hleast hgreatest
  constructor
  · calc (10 : ℚ) ^ (-331 : Int) ≤ 1 / 2 * 2 ^ (-1074 : Int) := hleast
      _ ≤ 1 / 2 * 2 ^ number.exponent := by
        have hmono : (2 : ℚ) ^ (-1074 : Int) ≤ 2 ^ number.exponent :=
          zpow_le_zpow_right₀ (by norm_num) hcanonical.minExponent_le
        linarith
      _ ≤ (number.significand - number.below / 4 : ℚ) * 2 ^ number.exponent :=
        mul_le_mul_of_nonneg_right (by linarith) hscale.le
      _ ≤ x := h.low
  · calc x ≤ (number.significand + 1 / 2 : ℚ) * 2 ^ number.exponent := h.high
      _ ≤ 2 ^ 53 * 2 ^ number.exponent := mul_le_mul_of_nonneg_right (by linarith) hscale.le
      _ ≤ 2 ^ 53 * 2 ^ (971 : Int) := by
        have hmono : (2 : ℚ) ^ number.exponent ≤ 2 ^ (971 : Int) :=
          zpow_le_zpow_right₀ (by norm_num) hcanonical.le_maxExponent
        linarith
      _ < 10 ^ (310 : Int) := hgreatest

/-- A decimal that a number admits stands for that number. -/
theorem nearest?_of_admits (hcanonical : number.IsCanonical) (hnumber : number.significand ≠ 0)
    (h : number.Admits (mantissa.natAbs * 10 ^ exponent)) :
    nearest? mantissa exponent = some (some number) := by
  obtain ⟨hlow, hhigh⟩ := bounds_of_admits hcanonical hnumber h
  have hmantissa : mantissa.natAbs ≠ 0 := by
    intro hzero
    rw [hzero] at hlow
    have := ten_zpow_pos (-331)
    simp only [Nat.cast_zero, zero_mul] at hlow
    linarith
  have hscale := ten_zpow_pos exponent
  have hlength := lt_ten_zpow_length mantissa.natAbs
  have hlength' := ten_zpow_length_le hmantissa
  have hsmall : ¬((Nat.toDigits 10 mantissa.natAbs).length + exponent < -330) := by
    intro hless
    have hx : (mantissa.natAbs : ℚ) * 10 ^ exponent < 10 ^ (-331 : Int) := by
      calc (mantissa.natAbs : ℚ) * 10 ^ exponent
          < 10 ^ ((Nat.toDigits 10 mantissa.natAbs).length : Int) * 10 ^ exponent :=
            mul_lt_mul_of_pos_right hlength hscale
        _ = 10 ^ ((Nat.toDigits 10 mantissa.natAbs).length + exponent) :=
            (zpow_add₀ (by norm_num) _ _).symm
        _ ≤ 10 ^ (-331 : Int) := zpow_le_zpow_right₀ (by norm_num) (by omega)
    linarith
  have hlarge : ¬(310 < (Nat.toDigits 10 mantissa.natAbs).length + exponent) := by
    intro hmore
    have hx : (10 : ℚ) ^ (310 : Int) ≤ mantissa.natAbs * 10 ^ exponent := by
      calc (10 : ℚ) ^ (310 : Int)
          ≤ 10 ^ (((Nat.toDigits 10 mantissa.natAbs).length : Int) - 1 + exponent) :=
            zpow_le_zpow_right₀ (by norm_num) (by omega)
        _ = 10 ^ (((Nat.toDigits 10 mantissa.natAbs).length : Int) - 1) * 10 ^ exponent :=
            zpow_add₀ (by norm_num) _ _
        _ ≤ mantissa.natAbs * 10 ^ exponent := mul_le_mul_of_nonneg_right hlength' hscale.le
    linarith
  have hround := Double.ofRatio?_of_admits hcanonical
    (scaleDown_ne_zero hmantissa (by decide) (-exponent))
    (scaleDown_snd_ne_zero (by decide) Nat.one_ne_zero (-exponent))
    (ratio_scaleDown_natAbs mantissa exponent ▸ h)
  simp only [nearest?]
  rw [if_neg, if_neg hlarge, hround, Option.map_some, if_neg hnumber]
  simp only [Bool.or_eq_true, decide_eq_true_eq, not_or]
  exact ⟨Int.natAbs_ne_zero.1 hmantissa, hsmall⟩

/-! ## Rounding -/

theorem natAbs_signed (isNegative : Bool) (value : Nat) :
    (Json.Numeral.signed isNegative value).natAbs = value := by
  cases isNegative <;> simp [Json.Numeral.signed]

theorem isNegative_signed {isNegative : Bool} {value : Nat} (h : value ≠ 0) (exponent : Int) :
    Decimal.isNegative (.finite (Json.Numeral.signed isNegative value) exponent false) = isNegative := by
  cases isNegative with
  | true =>
    have hless : -(value : Int) < 0 := by omega
    simpa [Decimal.isNegative, Json.Numeral.signed] using hless
  | false => simp [Decimal.isNegative, Json.Numeral.signed]

/-- A number admits itself. -/
theorem admits_toRat (number : Double) : number.Admits number.toRat := by
  have hscale := Double.two_zpow_pos number.exponent
  have hbelow : (0 : ℚ) < number.below / 4 := by
    unfold Double.below
    split <;> norm_num
  refine ⟨?_, ?_, .inr ⟨?_, ?_⟩⟩ <;> unfold Double.toRat <;> nlinarith

/-- All digits of a number are the number. -/
theorem toRat_eq (number : Double) :
    ((number.significand * if 0 ≤ number.exponent then 2 ^ number.exponent.toNat
      else 5 ^ (-number.exponent).toNat : Nat) : ℚ) * 10 ^ min number.exponent 0 = number.toRat := by
  obtain ⟨significand, exponent⟩ := number
  simp only [Double.toRat]
  split
  · next hpositive =>
    obtain ⟨power, rfl⟩ := Int.eq_ofNat_of_zero_le hpositive
    rw [min_eq_right hpositive]
    simp
  · next hnegative =>
    obtain ⟨power, rfl⟩ : ∃ power : Nat, exponent = -(power : Int) := ⟨exponent.natAbs, by omega⟩
    have hten : (10 : ℚ) ^ power = 2 ^ power * 5 ^ power := by rw [← mul_pow]; norm_num
    rw [min_eq_left (by omega), neg_neg, Int.toNat_natCast]
    push_cast
    rw [zpow_neg, zpow_neg, zpow_natCast, zpow_natCast, hten]
    field_simp

theorem rounded_exactly (hcanonical : number.IsCanonical) (hnumber : number.significand ≠ 0)
    (isNegative : Bool) : (number.exactly isNegative).rounded = number.exactly isNegative := by
  have hdigits : number.significand * (if 0 ≤ number.exponent then 2 ^ number.exponent.toNat
      else 5 ^ (-number.exponent).toNat) ≠ 0 := by
    refine Nat.mul_ne_zero hnumber ?_
    split <;> positivity
  have hnearest : nearest? (Json.Numeral.signed isNegative (number.significand *
      if 0 ≤ number.exponent then 2 ^ number.exponent.toNat else 5 ^ (-number.exponent).toNat))
      (min number.exponent 0) = some (some number) := by
    refine nearest?_of_admits hcanonical hnumber ?_
    rw [natAbs_signed, toRat_eq]
    exact admits_toRat number
  rw [Double.exactly, rounded_finite, hnearest]
  simp only [isNegative_signed hdigits]
  rfl

/-- A rounded decimal is left alone. -/
theorem rounded_rounded (value : Decimal) : value.rounded.rounded = value.rounded := by
  cases value with
  | finite mantissa exponent negativeZero =>
    rw [rounded_finite]
    cases hnearest : nearest? mantissa exponent with
    | none => rfl
    | some found =>
      cases found with
      | none =>
        have hzero : nearest? 0 0 = some none := rfl
        simp [rounded_finite, hzero, isNegative]
      | some number =>
        obtain ⟨hcanonical, hnumber⟩ := isCanonical_of_nearest? hnearest
        exact rounded_exactly hcanonical hnumber _
  | infinite negative => rfl
  | notANumber => rfl

end Decimal

/-! ## Writing and reading -/

namespace Json

/-- The number that the digits of a numeral write. -/
theorem Numeral.Tells.ratio_eq {numeral : Numeral} {digits : Nat} {places : Int}
    (h : numeral.Tells digits places) :
    (natOfDigits (numeral.whole ++ numeral.fraction) : ℚ) *
      10 ^ (power numeral.exponent - numeral.fraction.length) = digits / 10 ^ places := by
  obtain ⟨zeros, hmantissa, hexponent⟩ := h
  rw [hmantissa, hexponent, zpow_sub₀ (by norm_num), zpow_natCast, zpow_neg]
  push_cast
  field_simp

theorem readsAs_infinite (isNegative : Bool) {value : Decimal}
    (h : value.write "Infinity" "NaN" = (if isNegative then "-" else "") ++ "Infinity") :
    ReadsAs (.decimal value) (.decimal (.infinite isNegative)) := by
  cases isNegative with
  | true =>
    refine readsAs_word "-Infinity" (by simp [wordValues]) fun _ _ => ?_
    rw [write_decimal, writeDecimal, h]
    rfl
  | false =>
    refine readsAs_word "Infinity" (by simp [wordValues]) fun _ _ => ?_
    rw [write_decimal, writeDecimal, h]
    rfl

theorem readsAs_zero (isNegative : Bool) {value : Decimal}
    (h : value.write "Infinity" "NaN" = (if isNegative then "-" else "") ++ "0.0") :
    ReadsAs (.decimal value) (.decimal (.finite 0 (-1) isNegative)) := by
  have hproper : Numeral.IsProper ⟨isNegative, ['0'], ['0'], none⟩ :=
    ⟨.inl rfl, by simp [isDigitChar], by simp⟩
  refine readsAs_numeral hproper ?_ fun _ _ => ?_
  · cases isNegative <;> rfl
  · rw [write_decimal, writeDecimal, h]
    cases isNegative <;> rfl

/-- The shortest numeral of a number is read as a decimal that is nearest to that number. -/
theorem exists_readsAs_number {number : Double} (hcanonical : number.IsCanonical)
    (hnumber : number.significand ≠ 0) (isNegative : Bool) {value : Decimal}
    (h : value.write "Infinity" "NaN" = (if isNegative then "-" else "") ++
      writePoint number.shortest.1 number.shortest.2) :
    ∃ mantissa exponent, ReadsAs (.decimal value) (.decimal (.finite mantissa exponent false)) ∧
      Decimal.nearest? mantissa exponent = some (some number) ∧
      Decimal.isNegative (.finite mantissa exponent false) = isNegative := by
  obtain ⟨numeral, hdecimal, hpositive, htells, hchars⟩ :=
    writePoint_eq (Double.shortest_ne_zero hnumber) number.shortest.2
  have hmantissa : natOfDigits (numeral.whole ++ numeral.fraction) ≠ 0 := by
    obtain ⟨zeros, heq, -⟩ := htells
    rw [heq]
    exact Nat.mul_ne_zero (Double.shortest_ne_zero hnumber) (by positivity)
  have hadmits := Double.admits_shortest hcanonical hnumber
  rw [← htells.ratio_eq] at hadmits
  have hmarked : ¬(numeral.fraction = [] ∧ numeral.exponent = none) := by
    rintro ⟨hfraction, hexponent⟩
    exact hdecimal.isMarked.elim (· hfraction) (· hexponent)
  have hproper : Numeral.IsProper { numeral with isNegative := isNegative } :=
    ⟨hdecimal.isProper.whole, hdecimal.isProper.fraction, hdecimal.isProper.exponent⟩
  refine ⟨Numeral.signed isNegative (natOfDigits (numeral.whole ++ numeral.fraction)),
    Numeral.power numeral.exponent - numeral.fraction.length,
    readsAs_numeral hproper ?_ fun _ _ => ?_, ?_, ?_⟩
  · rw [Numeral.value?, if_neg hmarked]
    simp [hmantissa]
  · rw [write_decimal, writeDecimal, h, String.toList_append, hchars]
    cases isNegative <;> simp [Numeral.chars, hpositive]
  · refine Decimal.nearest?_of_admits hcanonical hnumber ?_
    rw [Decimal.natAbs_signed]
    exact hadmits
  · exact Decimal.isNegative_signed hmantissa _

/-- What is written for a decimal is read as one that stands for the same number. -/
theorem exists_readsAs_rounded_decimal (value : Decimal) :
    ∃ other : Decimal, ReadsAs (.decimal value) (.decimal other) ∧ other.rounded = value.rounded := by
  cases value with
  | notANumber =>
    exact ⟨.notANumber, readsAs_word "NaN" (by simp [wordValues]) fun _ _ => rfl, rfl⟩
  | infinite negative =>
    refine ⟨.infinite negative, readsAs_infinite negative ?_, rfl⟩
    cases negative <;> rfl
  | finite mantissa exponent negativeZero =>
    have hwrite := Decimal.write_finite "Infinity" "NaN" mantissa exponent negativeZero
    rw [Decimal.rounded_finite]
    generalize Decimal.isNegative (.finite mantissa exponent negativeZero) = isNegative at hwrite ⊢
    cases hnearest : Decimal.nearest? mantissa exponent with
    | none =>
      rw [hnearest] at hwrite
      exact ⟨.infinite isNegative, readsAs_infinite isNegative hwrite, rfl⟩
    | some found =>
      rw [hnearest] at hwrite
      cases found with
      | none =>
        have hzero : Decimal.nearest? 0 (-1) = some none := rfl
        refine ⟨.finite 0 (-1) isNegative, readsAs_zero isNegative hwrite, ?_⟩
        simp [Decimal.rounded_finite, hzero, Decimal.isNegative]
      | some number =>
        obtain ⟨hcanonical, hnumber⟩ := Decimal.isCanonical_of_nearest? hnearest
        obtain ⟨mantissa', exponent', hreads, hread, hsign⟩ :=
          exists_readsAs_number hcanonical hnumber isNegative hwrite
        exact ⟨_, hreads, by rw [Decimal.rounded_finite, hread, hsign]⟩

/-! ## Values -/

mutual

/-- A value in which each decimal is the number that it stands for. -/
def rounded : Json → Json
  | .decimal value => .decimal value.rounded
  | .list items => .list (itemsRounded items)
  | .object fields => .object (fieldsRounded fields)
  | value => value

/-- The items of a list with the numbers that their decimals stand for. -/
def itemsRounded : List Json → List Json
  | [] => []
  | item :: items => rounded item :: itemsRounded items

/-- Fields with the numbers that the decimals in their values stand for. -/
def fieldsRounded : List (String × Json) → List (String × Json)
  | [] => []
  | (name, value) :: fields => (name, rounded value) :: fieldsRounded fields

end

/-- Does a value stand for a finite number, if it is a decimal? -/
def isFiniteNumber : Json → Bool
  | .decimal value => value.isFinite
  | _ => true

theorem itemsRounded_eq (items : List Json) : itemsRounded items = items.map rounded := by
  induction items with
  | nil => rfl
  | cons item items ih => rw [itemsRounded, ih, List.map_cons]

theorem fieldsRounded_eq (fields : List (String × Json)) :
    fieldsRounded fields = fields.map fun field => (field.1, field.2.rounded) := by
  induction fields with
  | nil => rfl
  | cons field fields ih => rw [fieldsRounded, ih, List.map_cons]

theorem map_eq_of_forall₂ {relates : α → β → Prop} (first : α → γ) (second : β → γ) {items : List α}
    {others : List β} (h : List.Forall₂ relates items others)
    (heq : ∀ item other, relates item other → second other = first item) :
    others.map second = items.map first := by
  induction h with
  | nil => rfl
  | cons hitem _ ih => rw [List.map_cons, List.map_cons, heq _ _ hitem, ih]

/-- Is a value read as another one with the same numbers? -/
def RereadsAs (value other : Json) : Prop :=
  ReadsAs value other ∧ other.rounded = value.rounded

theorem RereadsAs.list {items others : List Json} (h : List.Forall₂ RereadsAs items others) :
    RereadsAs (.list items) (.list others) := by
  refine ⟨readsAs_list (h.imp fun _ _ => And.left), ?_⟩
  rw [rounded, rounded, itemsRounded_eq, itemsRounded_eq,
    map_eq_of_forall₂ rounded rounded h fun _ _ => And.right]

/-- Fields under distinct names are read one by one. -/
theorem RereadsAs.object {fields others : List (String × Json)} (hnames : (fields.map (·.1)).Nodup)
    (h : List.Forall₂ (fun field other => field.1 = other.1 ∧ RereadsAs field.2 other.2) fields others) :
    RereadsAs (.object fields) (.object others) := by
  have hothers : others.map (·.1) = fields.map (·.1) :=
    map_eq_of_forall₂ _ _ h fun _ _ hfield => hfield.1.symm
  have hread := readsAs_object (h.imp fun _ _ hfield => ⟨hfield.1, hfield.2.1⟩)
  rw [ofEntries_of_nodup (hothers ▸ hnames)] at hread
  refine ⟨hread, ?_⟩
  have hfields : (others.map fun field => (field.1, field.2.rounded)) =
      fields.map fun field => (field.1, field.2.rounded) :=
    map_eq_of_forall₂ _ _ h fun field other hfield => by rw [hfield.1, hfield.2.2]
  rw [rounded, rounded, fieldsRounded_eq, fieldsRounded_eq, hfields]

/-- What is written for a value is read as one with the same numbers, if the names in its objects are
distinct and its integers are short enough. -/
theorem exists_rereadsAs : ∀ value : Json, value.isReadable = true → value.isDistinct = true →
    ∃ other, RereadsAs value other := by
  intro value
  induction value using induct with
  | null => exact fun _ _ => ⟨.null, readsAs_null, rfl⟩
  | bool value => exact fun _ _ => ⟨.bool value, readsAs_bool value, rfl⟩
  | integer value => exact fun h _ => ⟨.integer value, readsAs_integer h, rfl⟩
  | decimal value =>
    obtain ⟨other, hread, hrounded⟩ := exists_readsAs_rounded_decimal value
    exact fun _ _ => ⟨.decimal other, hread, by rw [rounded, rounded, hrounded]⟩
  | text value => exact fun _ _ => ⟨.text value, readsAs_text value, rfl⟩
  | list items ih =>
    intro hreadable hdistinct
    obtain ⟨others, hothers⟩ := exists_forall₂ fun item hitem =>
      ih item hitem ((everywhere_list.1 hreadable).2 item hitem) ((everywhere_list.1 hdistinct).2 item hitem)
    exact ⟨.list others, .list hothers⟩
  | object fields ih =>
    intro hreadable hdistinct
    obtain ⟨hnames, hdistinct⟩ := everywhere_object.1 hdistinct
    have hfield (field : String × Json) (hmem : field ∈ fields) :
        ∃ other : String × Json, field.1 = other.1 ∧ RereadsAs field.2 other.2 := by
      obtain ⟨other, hother⟩ := ih field hmem ((everywhere_object.1 hreadable).2 field hmem)
        (hdistinct field hmem)
      exact ⟨(field.1, other), rfl, hother⟩
    obtain ⟨others, hothers⟩ := exists_forall₂ hfield
    exact ⟨.object others, .object (by simpa [hasDistinctNames] using hnames) hothers⟩

/-- A value without decimals is its own rounding. -/
theorem rounded_eq_self {value : Json} (h : value.hasNoDecimals = true) : value.rounded = value := by
  induction value using induct with
  | decimal value => exact absurd h (by simp [hasNoDecimals, everywhere, isNoDecimal])
  | list items ih =>
    have hitems : items.map rounded = items.map id := List.map_congr_left fun item hitem =>
      ih item hitem ((everywhere_list.1 h).2 item hitem)
    rw [rounded, itemsRounded_eq, hitems, List.map_id]
  | object fields ih =>
    have hfields : (fields.map fun field => (field.1, field.2.rounded)) = fields.map id :=
      List.map_congr_left fun field hfield => by
        rw [ih field hfield ((everywhere_object.1 h).2 field hfield), id]
    rw [rounded, fieldsRounded_eq, hfields, List.map_id]
  | _ => rfl

end Json

end PageBlocks
