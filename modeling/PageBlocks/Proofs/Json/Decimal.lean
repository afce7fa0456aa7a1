import Mathlib.Tactic.SplitIfs
import PageBlocks.Proofs.Json.Numeral
/-!
# Decimal numbers as they are written

A number of double precision is written as a numeral with a point or an exponent, or as one of the
words for infinity and for what is not a number.  A numeral begins with a zero that others follow only
where all of its digits are zero, which the digits of a number that is not zero never are.

## Main results

* `Double.shortest_ne_zero` — the fewest digits of a number other than zero are not all zero.
* `Json.writeDecimal_cases` — what is written for a decimal is a word or a numeral.
-/

namespace PageBlocks

/-! ## Digits other than zero -/

theorem dropZeros_ne_zero {value : Nat} (h : value ≠ 0) (fuel : Nat) : (dropZeros fuel value).1 ≠ 0 := by
  induction fuel generalizing value with
  | zero => exact h
  | succ fuel ih =>
    rw [dropZeros]
    split
    · next hten => exact ih (show value / 10 ≠ 0 by omega)
    · exact h

theorem scaleDown_ne_zero {ratio : Nat × Nat} (h : ratio.1 ≠ 0) {base : Nat} (hbase : base ≠ 0)
    (exponent : Int) : (scaleDown base ratio exponent).1 ≠ 0 := by
  cases exponent with
  | ofNat power => exact h
  | negSucc power =>
    have hpower : 0 < base.pow (power + 1) := Nat.pow_pos (Nat.pos_of_ne_zero hbase)
    exact Nat.mul_ne_zero h (Nat.pos_iff_ne_zero.1 hpower)

/-- What lies between two ratios that are above zero is not zero. -/
theorem isBetween_ne_zero {low high : Nat × Nat} {withEnds : Bool} {digits : Nat} (hlow : low.1 ≠ 0)
    (h : isBetween low high withEnds digits = true) : digits ≠ 0 := by
  rintro rfl
  simp [isBetween, hlow] at h

theorem roundRatio_ne_zero {numerator denominator : Nat} (h : numerator / denominator ≠ 0) :
    roundRatio numerator denominator ≠ 0 := by
  simp only [roundRatio]
  split
  · exact Nat.succ_ne_zero _
  · exact h

namespace Double

variable {number : Double}

theorem withDigits?_ne_zero {count digits : Nat} {places : Int} (hnumber : number.significand ≠ 0)
    (h : number.withDigits? count = some (digits, places)) : digits ≠ 0 := by
  have hlow (below : Nat) (hbelow : below ≤ 2) (exponent : Int) :
      (scaleDown 10 (number.quarters (4 * number.significand - below)) exponent).1 ≠ 0 := by
    refine scaleDown_ne_zero (scaleDown_ne_zero ?_ (by decide) _) (by decide) exponent
    show 4 * number.significand - below ≠ 0
    omega
  unfold withDigits? at h
  simp only at h
  split at h
  next hfloor hnext =>
    obtain ⟨rfl, rfl⟩ := Prod.mk.inj (Option.some.inj h)
    exact roundRatio_ne_zero (isBetween_ne_zero (hlow _ (by split <;> decide) _) hfloor)
  next hfloor hnext =>
    obtain ⟨rfl, rfl⟩ := Prod.mk.inj (Option.some.inj h)
    exact isBetween_ne_zero (hlow _ (by split <;> decide) _) hfloor
  next hfloor hnext =>
    obtain ⟨rfl, rfl⟩ := Prod.mk.inj (Option.some.inj h)
    exact Nat.succ_ne_zero _
  next => cases h

/-- The fewest digits of a number other than zero are not all zero. -/
theorem shortest_ne_zero (h : number.significand ≠ 0) : number.shortest.1 ≠ 0 := by
  unfold shortest
  cases hfind : (List.range 17).findSome? fun count => number.withDigits? (count + 1) with
  | none => exact dropZeros_ne_zero h 20
  | some found =>
    obtain ⟨digits, places⟩ := found
    obtain ⟨count, -, hcount⟩ := List.exists_of_findSome?_eq_some hfind
    exact dropZeros_ne_zero (withDigits?_ne_zero h hcount) 20

end Double

namespace Json

/-! ## The written form -/

/-- Is this a numeral with a point or an exponent? -/
structure Numeral.IsDecimal (numeral : Numeral) : Prop where
  isProper : numeral.IsProper
  isMarked : numeral.fraction ≠ [] ∨ numeral.exponent ≠ none

theorem isDigitChar_of_mem_replicate {count : Nat} {c : Char} (h : c ∈ List.replicate count '0') :
    isDigitChar c = true := by
  rw [List.eq_of_mem_replicate h]
  decide

theorem isDigitChar_of_mem_append {first second : List Char}
    (hfirst : ∀ c ∈ first, isDigitChar c = true) (hsecond : ∀ c ∈ second, isDigitChar c = true) :
    ∀ c ∈ first ++ second, isDigitChar c = true := by
  intro c hc
  obtain h | h := List.mem_append.1 hc
  · exact hfirst c h
  · exact hsecond c h

/-- Digits that do not begin with zero, with others behind them. -/
theorem isWhole_cons_append {first : Char} {rest : List Char} (h : first ≠ '0')
    (hdigits : ∀ c ∈ first :: rest, isDigitChar c = true) {more : List Char}
    (hmore : ∀ c ∈ more, isDigitChar c = true) : IsWhole (first :: rest ++ more) :=
  .inr ⟨first, rest ++ more, rfl, h, isDigitChar_of_mem_append hdigits hmore⟩

theorem natOfDigits_append_zeros (digits : List Char) (count : Nat) :
    natOfDigits (digits ++ List.replicate count '0') = natOfDigits digits * 10 ^ count := by
  induction count with
  | zero => simp
  | succ count ih =>
    have hlast : natOfDigits (digits ++ List.replicate count '0' ++ ['0']) =
        natOfDigits (digits ++ List.replicate count '0') * 10 := by
      simp [natOfDigits]
    rw [List.replicate_succ', ← List.append_assoc, hlast, ih, Nat.pow_succ, Nat.mul_assoc]

theorem natOfDigits_zeros_append (count : Nat) (digits : List Char) :
    natOfDigits (List.replicate count '0' ++ digits) = natOfDigits digits := by
  have hzeros : (List.replicate count '0').foldl (fun value c => value * 10 + (c.toNat - 48)) 0 = 0 := by
    induction count with
    | zero => rfl
    | succ count ih => simpa [List.replicate_succ] using ih
  rw [natOfDigits, List.foldl_append, hzeros]
  rfl

/-- Does a numeral write a number whose last digits are behind the point?  It may have zeros behind
them. -/
def Numeral.Tells (numeral : Numeral) (digits : Nat) (places : Int) : Prop :=
  ∃ zeros : Nat, natOfDigits (numeral.whole ++ numeral.fraction) = digits * 10 ^ zeros ∧
    power numeral.exponent - numeral.fraction.length = -places - zeros

/-- Is a text a numeral without a sign that has a point or an exponent, and tells a number whose last
digits are behind the point? -/
def IsWritten (digits : Nat) (places : Int) (text : List Char) : Prop :=
  ∃ numeral : Numeral, numeral.IsDecimal ∧ numeral.isNegative = false ∧
    numeral.Tells digits places ∧ text = numeral.chars

section Point

variable {first : Char} {rest : List Char} {digits : Nat} {point : Int}

/-- The point is in front of the digits, with a zero before it. -/
theorem isWritten_behind (hdigits : ∀ c ∈ first :: rest, isDigitChar c = true)
    (hvalue : natOfDigits (first :: rest) = digits) (hpoint : point ≤ 0) :
    IsWritten digits ((first :: rest).length - point)
      ('0' :: '.' :: List.replicate point.natAbs '0' ++ first :: rest) := by
  refine ⟨⟨false, ['0'], List.replicate point.natAbs '0' ++ first :: rest, none⟩,
    ⟨⟨.inl rfl, ?_, by simp⟩, .inl (by simp)⟩, rfl, ⟨0, ?_, ?_⟩, ?_⟩
  · exact isDigitChar_of_mem_append (fun _ hc => isDigitChar_of_mem_replicate hc) hdigits
  · have hmantissa := natOfDigits_zeros_append (point.natAbs + 1) (first :: rest)
    rw [List.replicate_succ, hvalue] at hmantissa
    simpa using hmantissa
  · rw [Numeral.power, List.length_append, List.length_replicate]
    omega
  · simp [Numeral.chars, Numeral.pointChars, Numeral.exponentChars]

/-- The digits end in front of the point. -/
theorem isWritten_before (hfirst : first ≠ '0')
    (hdigits : ∀ c ∈ first :: rest, isDigitChar c = true)
    (hvalue : natOfDigits (first :: rest) = digits)
    (hshort : (first :: rest).length ≤ point.toNat) :
    IsWritten digits ((first :: rest).length - point)
      (first :: rest ++ List.replicate (point.toNat - (first :: rest).length) '0' ++ ['.', '0']) := by
  have hwhole : IsWhole (first :: rest ++
      List.replicate (point.toNat - (first :: rest).length) '0') :=
    isWhole_cons_append hfirst hdigits fun _ hc => isDigitChar_of_mem_replicate hc
  refine ⟨⟨false, first :: rest ++ List.replicate (point.toNat - (first :: rest).length) '0', ['0'],
    none⟩, ⟨⟨hwhole, by simp [isDigitChar], by simp⟩, .inl (by simp)⟩, rfl,
    ⟨point.toNat - (first :: rest).length + 1, ?_, ?_⟩, ?_⟩
  · have hmantissa := natOfDigits_append_zeros (first :: rest)
      (point.toNat - (first :: rest).length + 1)
    rw [List.replicate_succ', hvalue, ← List.append_assoc] at hmantissa
    exact hmantissa
  · rw [Numeral.power, List.length_singleton]
    rw [List.length_cons] at hshort ⊢
    omega
  · simp [Numeral.chars, Numeral.pointChars, Numeral.exponentChars]

/-- The point stands between two digits. -/
theorem isWritten_between (hfirst : first ≠ '0')
    (hdigits : ∀ c ∈ first :: rest, isDigitChar c = true)
    (hvalue : natOfDigits (first :: rest) = digits) (hpoint : 0 < point)
    (hlong : point.toNat < (first :: rest).length) :
    IsWritten digits ((first :: rest).length - point)
      ((first :: rest).take point.toNat ++ '.' :: (first :: rest).drop point.toNat) := by
  obtain ⟨before, hbefore⟩ : ∃ before, point.toNat = before + 1 := ⟨point.toNat - 1, by omega⟩
  rw [hbefore, List.length_cons] at hlong
  rw [hbefore]
  have hdrop : rest.drop before ≠ [] := by
    rw [ne_eq, List.drop_eq_nil_iff]
    omega
  refine ⟨⟨false, first :: rest.take before, rest.drop before, none⟩,
    ⟨⟨.inr ⟨first, rest.take before, rfl, hfirst, fun c hc => ?_⟩, fun c hc => ?_, by simp⟩,
      .inl hdrop⟩, rfl, ⟨0, ?_, ?_⟩, ?_⟩
  · exact hdigits c (List.cons_subset_cons first (List.take_subset before rest) hc)
  · exact hdigits c (.tail _ (List.mem_of_mem_drop hc))
  · simpa using hvalue
  · simp only [Numeral.power, List.length_drop, List.length_cons]
    omega
  · simp [Numeral.chars, Numeral.pointChars, Numeral.exponentChars, hdrop]

/-- An exponent of two digits at least follows the digits. -/
theorem isWritten_exponent (hfirst : first ≠ '0')
    (hdigits : ∀ c ∈ first :: rest, isDigitChar c = true)
    (hvalue : natOfDigits (first :: rest) = digits) (point : Int) :
    IsWritten digits ((first :: rest).length - point)
      (first :: Numeral.pointChars rest ++ 'e' :: (if point - 1 < 0 then '-' else '+') ::
        List.replicate (2 - (Nat.toDigits 10 (point - 1).natAbs).length) '0' ++
          Nat.toDigits 10 (point - 1).natAbs) := by
  have hsize : ∀ c ∈ List.replicate (2 - (Nat.toDigits 10 (point - 1).natAbs).length) '0' ++
      Nat.toDigits 10 (point - 1).natAbs, isDigitChar c = true :=
    isDigitChar_of_mem_append (fun _ hc => isDigitChar_of_mem_replicate hc)
      fun _ hc => isDigitChar_of_mem_toDigits hc
  have hlast := (isWhole_toDigits (point - 1).natAbs).ne_nil
  refine ⟨⟨false, [first], rest, some (decide (point - 1 < 0),
    List.replicate (2 - (Nat.toDigits 10 (point - 1).natAbs).length) '0' ++
      Nat.toDigits 10 (point - 1).natAbs)⟩,
    ⟨⟨.inr ⟨first, [], rfl, hfirst, fun c hc => ?_⟩, fun c hc => hdigits c (.tail _ hc), ?_⟩,
      .inr (by simp)⟩, rfl, ⟨0, ?_, ?_⟩, ?_⟩
  · exact hdigits c (List.cons_subset_cons first (List.nil_subset rest) hc)
  · rintro _ _ ⟨⟩
    exact ⟨by simp [hlast], hsize⟩
  · simpa using hvalue
  · simp only [Numeral.power, natOfDigits_zeros_append, natOfDigits_toDigits, Numeral.signed,
      List.length_cons, decide_eq_true_eq]
    split <;> omega
  · simp [Numeral.chars, Numeral.exponentChars]

end Point

/-- Digits other than zero are written as a numeral, wherever the point is. -/
theorem writePoint_eq {digits : Nat} (h : digits ≠ 0) (places : Int) :
    IsWritten digits places (writePoint digits places).toList := by
  obtain ⟨first, rest, htext, hfirst⟩ := head_toDigits h
  have hdigits (c : Char) (hc : c ∈ first :: rest) : isDigitChar c = true :=
    isDigitChar_of_mem_toDigits (htext ▸ hc)
  have hvalue : natOfDigits (first :: rest) = digits := htext ▸ natOfDigits_toDigits digits
  unfold writePoint
  simp only [htext, String.toList_ofList]
  obtain ⟨point, hpoint⟩ : ∃ point : Int, point = (first :: rest).length - places := ⟨_, rfl⟩
  obtain rfl : places = (first :: rest).length - point := by omega
  rw [← hpoint]
  split
  · next hstart =>
    simp only [Bool.and_eq_true, decide_eq_true_eq] at hstart
    exact isWritten_behind hdigits hvalue hstart.2
  split
  · next hmiddle =>
    simp only [Bool.and_eq_true, decide_eq_true_eq] at hmiddle
    split
    · next hshort => exact isWritten_before hfirst hdigits hvalue hshort
    · next hlong => exact isWritten_between hfirst hdigits hvalue hmiddle.1 (by omega)
  · have hexponent := isWritten_exponent hfirst hdigits hvalue point
    cases rest <;> exact hexponent

/-- A decimal is written with a sign, and behind it as infinity, as zero or with the digits of a number
other than zero. -/
theorem exists_write_finite (infinity notANumber : String) (mantissa exponent : Int)
    (negativeZero : Bool) :
    ∃ (isNegative : Bool) (body : String),
      Decimal.write infinity notANumber (.finite mantissa exponent negativeZero) =
        (if isNegative then "-" else "") ++ body ∧
      (body = infinity ∨ body = "0.0" ∨ ∃ number : Double, number.significand ≠ 0 ∧
        body = writePoint number.shortest.1 number.shortest.2) := by
  refine ⟨negativeZero || mantissa < 0, _, rfl, ?_⟩
  split
  · exact .inl rfl
  · exact .inr (.inl rfl)
  · next number hnumber =>
    refine .inr (.inr ⟨number, ?_, rfl⟩)
    split at hnumber
    · cases hnumber
    split at hnumber
    · cases hnumber
    obtain ⟨other, -, hother⟩ := Option.map_eq_some_iff.1 hnumber
    split at hother
    · cases hother
    · next hne =>
      cases hother
      exact hne

/-- What is written for a decimal is a word that is one, or a numeral with a point or an exponent. -/
theorem writeDecimal_cases (value : Decimal) :
    (∃ word, ∃ other, (word, Json.decimal other) ∈ wordValues ∧ writeDecimal value = word.toList) ∨
      ∃ numeral : Numeral, numeral.IsDecimal ∧ writeDecimal value = numeral.chars := by
  unfold writeDecimal
  cases value with
  | notANumber => exact .inl ⟨"NaN", .notANumber, by simp [wordValues], rfl⟩
  | infinite negative =>
    cases negative with
    | true => exact .inl ⟨"-Infinity", .infinite true, by simp [wordValues], rfl⟩
    | false => exact .inl ⟨"Infinity", .infinite false, by simp [wordValues], rfl⟩
  | finite mantissa exponent negativeZero =>
    obtain ⟨isNegative, body, hwrite, rfl | rfl | ⟨number, hnumber, rfl⟩⟩ :=
      exists_write_finite "Infinity" "NaN" mantissa exponent negativeZero
    · rw [hwrite]
      cases isNegative with
      | true => exact .inl ⟨"-Infinity", .infinite true, by simp [wordValues], rfl⟩
      | false => exact .inl ⟨"Infinity", .infinite false, by simp [wordValues], rfl⟩
    · rw [hwrite]
      refine .inr ⟨⟨isNegative, ['0'], ['0'], none⟩, ⟨⟨.inl rfl, ?_, ?_⟩, .inl (by simp)⟩, ?_⟩
      · simp [isDigitChar]
      · simp
      · cases isNegative <;> rfl
    · obtain ⟨numeral, hdecimal, hpositive, -, hchars⟩ :=
        writePoint_eq (Double.shortest_ne_zero hnumber) number.shortest.2
      refine .inr ⟨{ numeral with isNegative := isNegative },
        ⟨⟨hdecimal.isProper.whole, hdecimal.isProper.fraction, hdecimal.isProper.exponent⟩,
          hdecimal.isMarked⟩, ?_⟩
      rw [hwrite, String.toList_append, hchars]
      cases isNegative <;> simp [Numeral.chars, hpositive]

end Json

end PageBlocks
