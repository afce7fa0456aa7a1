import Mathlib.Algebra.Group.Nat.Defs
import PageBlocks.Json.Reader
import PageBlocks.Json.Writer
/-!
# Numbers as they are written

A number is written with a sign, digits, a fraction and an exponent, of which all but the digits may be
left out.  The reader takes the longest such text, so that a number is read as a whole where nothing
follows that could go on with it.

## Main results

* `Json.readNumber_chars` — a numeral is read as the number that it writes.
* `Json.natOfDigits_toDigits` — the digits of a number write it.
-/

namespace PageBlocks.Json

/-! ## Digits -/

theorem isDigitChar_eq (c : Char) : isDigitChar c = c.isDigit := by
  simp [isDigitChar, Char.isDigit, Char.le_def]

theorem natOfDigits_eq (digits : List Char) : natOfDigits digits = Nat.ofDigitChars 10 digits 0 := by
  simp [natOfDigits, Nat.ofDigitChars_eq_foldl, Nat.mul_comm]

/-- The digits of a number write it. -/
theorem natOfDigits_toDigits (n : Nat) : natOfDigits (Nat.toDigits 10 n) = n := by
  rw [natOfDigits_eq, Nat.ofDigitChars_ten_toDigits]

/-- Digits write a number that needs no more of them. -/
theorem natOfDigits_lt {digits : List Char} (h : ∀ c ∈ digits, isDigitChar c = true) :
    natOfDigits digits < 10 ^ digits.length := by
  have hfold : ∀ value, digits.foldl (fun value c => value * 10 + (c.toNat - 48)) value <
      (value + 1) * 10 ^ digits.length := by
    induction digits with
    | nil => simp
    | cons c digits ih =>
      intro value
      have hc : c.toNat - 48 < 10 := by
        have hdigit := h c List.mem_cons_self
        simp only [isDigitChar, Bool.and_eq_true, decide_eq_true_eq, Char.le_def] at hdigit
        have hnine : c.toNat ≤ 57 := hdigit.2
        omega
      calc (c :: digits).foldl (fun value c => value * 10 + (c.toNat - 48)) value
          < (value * 10 + (c.toNat - 48) + 1) * 10 ^ digits.length :=
            ih (fun d hd => h d (.tail _ hd)) _
        _ ≤ ((value + 1) * 10) * 10 ^ digits.length := Nat.mul_le_mul_right _ (by omega)
        _ = (value + 1) * 10 ^ (c :: digits).length := by
          rw [List.length_cons, Nat.pow_succ, Nat.mul_assoc, Nat.mul_comm 10]
  simpa [natOfDigits] using hfold 0

theorem isDigitChar_of_mem_toDigits {n : Nat} {c : Char} (h : c ∈ Nat.toDigits 10 n) :
    isDigitChar c = true := by
  rw [isDigitChar_eq]
  exact Nat.isDigit_of_mem_toDigits (by decide) (by decide) h

/-- Digits that are a number in front of a fraction: no zero stands before others. -/
def IsWhole (digits : List Char) : Prop :=
  digits = ['0'] ∨ ∃ first rest, digits = first :: rest ∧ first ≠ '0' ∧
    ∀ c ∈ digits, isDigitChar c = true

theorem head_toDigits {n : Nat} (h : n ≠ 0) :
    ∃ first rest, Nat.toDigits 10 n = first :: rest ∧ first ≠ '0' := by
  induction n using Nat.strongRecOn with
  | ind n ih =>
    by_cases hn : n < 10
    · refine ⟨n.digitChar, [], Nat.toDigits_of_lt_base hn, ?_⟩
      have hall : ∀ k < 10, k ≠ 0 → k.digitChar ≠ '0' := by decide
      exact hall n hn h
    · obtain ⟨first, rest, heq, hne⟩ := ih (n / 10) (by omega) (by omega)
      refine ⟨first, rest ++ [(n % 10).digitChar], ?_, hne⟩
      rw [Nat.toDigits_of_base_le (by decide) (by omega), heq, List.cons_append]

theorem isWhole_toDigits (n : Nat) : IsWhole (Nat.toDigits 10 n) := by
  by_cases h : n = 0
  · subst h
    exact .inl rfl
  · obtain ⟨first, rest, heq, hne⟩ := head_toDigits h
    exact .inr ⟨first, rest, heq, hne, fun c hc => isDigitChar_of_mem_toDigits hc⟩

theorem IsWhole.all {digits : List Char} (h : IsWhole digits) : ∀ c ∈ digits, isDigitChar c = true := by
  obtain rfl | ⟨_, _, _, _, hall⟩ := h
  · intro c hc
    rw [List.mem_singleton.1 hc]
    rfl
  · exact hall

theorem IsWhole.ne_nil {digits : List Char} (h : IsWhole digits) : digits ≠ [] := by
  obtain rfl | ⟨_, _, rfl, _, _⟩ := h <;> simp

/-! ## Ends -/

/-- Does a text not begin with a character of a kind? -/
def StartsWithout (kind : Char → Bool) (text : List Char) : Prop :=
  ∀ c ∈ text.head?, kind c = false

/-- Characters that go on with a number. -/
def isNumeralChar (c : Char) : Bool :=
  isDigitChar c || c = '.' || c = 'e' || c = 'E'

theorem startsWithout_cons {kind : Char → Bool} {c : Char} (h : kind c = false) (rest : List Char) :
    StartsWithout kind (c :: rest) := by
  rintro _ ⟨⟩
  exact h

/-- The longest start of a text is the run of characters up to where the kind changes. -/
theorem takeWhile_append {kind : Char → Bool} {run rest : List Char} (h : ∀ c ∈ run, kind c = true)
    (hrest : StartsWithout kind rest) : (run ++ rest).takeWhile kind = run := by
  rw [List.takeWhile_append_of_pos h]
  cases rest with
  | nil => simp
  | cons c rest =>
    have hc : ¬kind c = true := by simp [hrest c rfl]
    rw [List.takeWhile_cons_of_neg hc, List.append_nil]

theorem StartsWithout.mono {kind other : Char → Bool} {text : List Char}
    (h : StartsWithout kind text) (hall : ∀ c, kind c = false → other c = false) :
    StartsWithout other text :=
  fun c hc => hall c (h c hc)

theorem StartsWithout.digit {text : List Char} (h : StartsWithout isNumeralChar text) :
    StartsWithout isDigitChar text :=
  h.mono fun c hc => by simp_all [isNumeralChar]

theorem Cursor.skip_append (offset : Nat) (before after : List Char) :
    Cursor.skip ⟨offset, before ++ after⟩ before.length = ⟨offset + before.length, after⟩ := by
  simp [Cursor.skip]

/-! ## Numerals -/

/-- A number as it is written. -/
structure Numeral where
  isNegative : Bool
  whole : List Char
  /-- The digits after the point, if there is one. -/
  fraction : List Char
  /-- The sign and the digits of the exponent. -/
  exponent : Option (Bool × List Char)

namespace Numeral

/-- The written form of a fraction. -/
def pointChars (fraction : List Char) : List Char :=
  if fraction = [] then [] else '.' :: fraction

/-- The written form of an exponent. -/
def exponentChars : Option (Bool × List Char) → List Char
  | none => []
  | some (isNegative, digits) => 'e' :: (if isNegative then '-' else '+') :: digits

/-- The written form of a number. -/
def chars (numeral : Numeral) : List Char :=
  (if numeral.isNegative then ['-'] else []) ++
    (numeral.whole ++ (pointChars numeral.fraction ++ exponentChars numeral.exponent))

/-- Are all parts digits, and none of them missing that has to be there? -/
structure IsProper (numeral : Numeral) : Prop where
  whole : IsWhole numeral.whole
  fraction : ∀ c ∈ numeral.fraction, isDigitChar c = true
  exponent : ∀ isNegative digits, numeral.exponent = some (isNegative, digits) →
    digits ≠ [] ∧ ∀ c ∈ digits, isDigitChar c = true

/-- A number with a sign. -/
def signed (isNegative : Bool) (value : Nat) : Int :=
  if isNegative then -(value : Int) else value

/-- The power of ten that an exponent tells. -/
def power : Option (Bool × List Char) → Int
  | none => 0
  | some (isNegative, digits) => signed isNegative (natOfDigits digits)

/-- The number that is written, if the reader admits as many digits. -/
def value? (numeral : Numeral) : Reading Json :=
  if numeral.fraction = [] ∧ numeral.exponent = none then
    if numeral.whole.length > maxIntegerDigits then .error (.integerTooLong numeral.whole.length)
    else .ok (.integer (signed numeral.isNegative (natOfDigits numeral.whole)))
  else
    let mantissa := natOfDigits (numeral.whole ++ numeral.fraction)
    .ok (.decimal (.finite (signed numeral.isNegative mantissa)
      (power numeral.exponent - numeral.fraction.length) (numeral.isNegative && mantissa = 0)))

end Numeral

variable {numeral : Numeral} {rest : List Char}

theorem fractionDigits_append {fraction tail : List Char}
    (hfraction : ∀ c ∈ fraction, isDigitChar c = true) (htail : StartsWithout isDigitChar tail)
    (hpoint : fraction = [] → StartsWithout (· = '.') tail) :
    fractionDigits (Numeral.pointChars fraction ++ tail) = fraction := by
  by_cases h : fraction = []
  · subst h
    cases tail with
    | nil => rfl
    | cons c tail =>
      have hc : c ≠ '.' := by simpa using hpoint rfl c rfl
      rw [Numeral.pointChars, if_pos rfl, List.nil_append, fractionDigits]
      exact fun _ heq => hc (List.cons.inj heq).1
  · rw [Numeral.pointChars, if_neg h, List.cons_append, fractionDigits]
    exact takeWhile_append hfraction htail

theorem exponentPart?_append {exponent : Option (Bool × List Char)}
    (hexponent : ∀ isNegative digits, exponent = some (isNegative, digits) →
      digits ≠ [] ∧ ∀ c ∈ digits, isDigitChar c = true)
    (hrest : StartsWithout isNumeralChar rest) :
    exponentPart? (Numeral.exponentChars exponent ++ rest) =
      exponent.map fun _ => (Numeral.power exponent, (Numeral.exponentChars exponent).length) := by
  cases exponent with
  | none =>
    cases rest with
    | nil => rfl
    | cons c rest =>
      have hc := hrest c rfl
      simp only [isNumeralChar, Bool.or_eq_false_iff, decide_eq_false_iff_not] at hc
      simp [Numeral.exponentChars, exponentPart?, hc]
  | some exponent =>
    obtain ⟨isNegative, digits⟩ := exponent
    obtain ⟨hne, hdigits⟩ := hexponent isNegative digits rfl
    have htake := takeWhile_append hdigits hrest.digit
    have hempty : digits.isEmpty = false := by simpa using hne
    cases isNegative <;>
      simp [Numeral.exponentChars, exponentPart?, htake, hempty, Numeral.power, Numeral.signed] <;>
      omega

/-- What the reader takes for the digits in front of a fraction. -/
theorem wholeDigits_append {whole tail : List Char} (hwhole : IsWhole whole)
    (htail : StartsWithout isDigitChar tail) :
    wholeDigits (whole ++ tail) = whole := by
  obtain rfl | ⟨first, more, rfl, hne, hall⟩ := hwhole
  · rfl
  · rw [List.cons_append, wholeDigits, ← List.cons_append]
    · exact takeWhile_append hall htail
    · exact fun _ heq => hne (List.cons.inj heq).1

/-- The sign of a numeral is its first character, if it has one. -/
theorem Numeral.head?_chars (hwhole : IsWhole numeral.whole) (rest : List Char) :
    (numeral.chars ++ rest).head? = some '-' ↔ numeral.isNegative = true := by
  obtain ⟨isNegative, whole, fraction, exponent⟩ := numeral
  obtain ⟨first, more, rfl⟩ := List.exists_cons_of_ne_nil hwhole.ne_nil
  have hfirst := hwhole.all first List.mem_cons_self
  have hne : first ≠ '-' := by
    rintro rfl
    exact absurd hfirst (by decide)
  cases isNegative with
  | true => exact iff_of_true rfl rfl
  | false => simpa [Numeral.chars] using hne

theorem Numeral.skip_sign (numeral : Numeral) (offset : Nat) (rest : List Char) :
    (if numeral.isNegative then Cursor.skip ⟨offset, numeral.chars ++ rest⟩ 1
      else ⟨offset, numeral.chars ++ rest⟩) =
      ⟨offset + (if numeral.isNegative then 1 else 0), numeral.whole ++
        (Numeral.pointChars numeral.fraction ++ (Numeral.exponentChars numeral.exponent ++ rest))⟩ := by
  obtain ⟨isNegative, whole, fraction, exponent⟩ := numeral
  cases isNegative <;> simp [Numeral.chars, Cursor.skip]

theorem Numeral.skip_point (fraction : List Char) (offset : Nat) (rest : List Char) :
    (if fraction.isEmpty then ⟨offset, Numeral.pointChars fraction ++ rest⟩
      else Cursor.skip ⟨offset, Numeral.pointChars fraction ++ rest⟩ (fraction.length + 1)) =
      ⟨offset + (Numeral.pointChars fraction).length, rest⟩ := by
  cases fraction <;> simp [Numeral.pointChars, Cursor.skip]

theorem Numeral.length_chars (numeral : Numeral) :
    numeral.chars.length = (if numeral.isNegative then 1 else 0) + numeral.whole.length +
      (Numeral.pointChars numeral.fraction).length +
        (Numeral.exponentChars numeral.exponent).length := by
  obtain ⟨isNegative, whole, fraction, exponent⟩ := numeral
  cases isNegative <;> simp [Numeral.chars] <;> omega

/-- No character that goes on with the digits stands behind a fraction. -/
theorem startsWithout_exponentChars {kind : Char → Bool} (hkind : kind 'e' = false)
    (hall : ∀ c, isNumeralChar c = false → kind c = false) (exponent : Option (Bool × List Char))
    (hrest : StartsWithout isNumeralChar rest) :
    StartsWithout kind (Numeral.exponentChars exponent ++ rest) := by
  cases exponent with
  | none => exact hrest.mono hall
  | some exponent => exact startsWithout_cons hkind _

theorem startsWithout_pointChars {kind : Char → Bool} (hkind : kind '.' = false)
    (fraction : List Char) (hrest : StartsWithout kind rest) :
    StartsWithout kind (Numeral.pointChars fraction ++ rest) := by
  rw [Numeral.pointChars]
  split
  · exact hrest
  · exact startsWithout_cons hkind _

/-- A numeral is read as the number that it writes, and nothing behind it is touched. -/
theorem readNumber_chars (h : numeral.IsProper) (hrest : StartsWithout isNumeralChar rest)
    (offset : Nat) :
    readNumber ⟨offset, numeral.chars ++ rest⟩ =
      numeral.value?.map fun value => (value, ⟨offset + numeral.chars.length, rest⟩) := by
  have hexponentDigit : StartsWithout isDigitChar (Numeral.exponentChars numeral.exponent ++ rest) :=
    startsWithout_exponentChars (by decide) (fun c hc => by simp_all [isNumeralChar]) _ hrest
  have hexponentPoint : StartsWithout (· = '.') (Numeral.exponentChars numeral.exponent ++ rest) :=
    startsWithout_exponentChars (by decide) (fun c hc => by simp_all [isNumeralChar]) _ hrest
  have hpointDigit := startsWithout_pointChars (by decide) numeral.fraction hexponentDigit
  rw [readNumber]
  simp only [Numeral.head?_chars h.whole, Numeral.skip_sign, wholeDigits_append h.whole hpointDigit,
    Cursor.skip_append, fractionDigits_append h.fraction hexponentDigit fun _ => hexponentPoint,
    Numeral.skip_point, exponentPart?_append h.exponent hrest,
    List.isEmpty_eq_false_iff.mpr h.whole.ne_nil]
  rw [Numeral.length_chars]
  obtain ⟨isNegative, whole, fraction, exponent⟩ := numeral
  cases exponent with
  | some exponent =>
    have hend (before : Nat) := Cursor.skip_append before (Numeral.exponentChars (some exponent)) rest
    simp [Numeral.value?, Except.map, Numeral.signed, hend, Nat.add_assoc]
  | none =>
    cases fraction with
    | cons digit fraction =>
      simp [Numeral.value?, Except.map, Numeral.signed, Numeral.power, Numeral.exponentChars,
        Cursor.skip, Nat.add_assoc]
    | nil =>
      by_cases hlong : whole.length > maxIntegerDigits <;>
        simp [Numeral.value?, Except.map, Numeral.signed, Numeral.pointChars, Numeral.exponentChars,
          hlong, Nat.add_assoc]

end PageBlocks.Json
