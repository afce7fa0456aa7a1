import Mathlib.Data.List.Basic
import PageBlocks.Text.Case
/-!
# Letter case of ASCII

On ASCII the full case mappings go character by character, and nothing but a letter is changed.

## Main results

* `forall_ascii` — what holds of the 128 characters of ASCII holds of each of them.
* `lower_eq_asciiLower`, `upper_eq_map` — the case mappings on ASCII.
* `eq_of_asciiLowerChar` — what is no small letter is nothing else in small letters.
-/

namespace PageBlocks.Text

variable {text : List Char}

theorem forall_ascii {P : Char → Prop} (h : ∀ n < 128, P (Char.ofNat n)) {c : Char}
    (hc : isAscii c = true) : P c := by
  rw [isAscii, decide_eq_true_eq] at hc
  exact Char.ofNat_toNat c ▸ h c.toNat hc

theorem isAscii_of_le {c d : Char} (h : c ≤ d) (hd : isAscii d = true) : isAscii c = true := by
  rw [isAscii, decide_eq_true_eq] at hd ⊢
  exact Nat.lt_of_le_of_lt (UInt32.le_iff_toNat_le.1 h) hd

/-- On ASCII all that is around a character makes no difference. -/
theorem lowerFrom_eq_asciiLower (before : List Char) (h : ∀ c ∈ text, isAscii c = true) :
    lowerFrom before text = asciiLower text := by
  induction text generalizing before with
  | nil => rfl
  | cons c text ih =>
    obtain ⟨hc, htext⟩ := List.forall_mem_cons.1 h
    rw [lowerFrom, lowerChar, if_pos hc, ih _ htext]
    rfl

theorem lower_eq_asciiLower (h : ∀ c ∈ text, isAscii c = true) : lower text = asciiLower text :=
  lowerFrom_eq_asciiLower [] h

theorem upper_eq_map (h : ∀ c ∈ text, isAscii c = true) : upper text = text.map asciiUpperChar := by
  calc upper text = text.flatMap fun c => [asciiUpperChar c] :=
        List.flatMap_congr fun c hc => by rw [upperChar, if_pos (h c hc)]
    _ = text.map asciiUpperChar := List.map_eq_flatMap.symm

/-! ## Small letters -/

/-- Is this a small ASCII letter? -/
def isSmallLetter (c : Char) : Bool :=
  'a' ≤ c && c ≤ 'z'

theorem isAscii_of_isSmallLetter {c : Char} (h : isSmallLetter c = true) : isAscii c = true := by
  rw [isSmallLetter, Bool.and_eq_true, decide_eq_true_eq, decide_eq_true_eq] at h
  exact isAscii_of_le h.2 (by decide)

theorem asciiLowerChar_of_isSmallLetter {c : Char} (h : isSmallLetter c = true) :
    asciiLowerChar c = c :=
  forall_ascii (P := fun c => isSmallLetter c = true → asciiLowerChar c = c) (by decide)
    (isAscii_of_isSmallLetter h) h

/-- Only capitals have other small letters than themselves. -/
theorem asciiLowerChar_eq_or (c : Char) :
    asciiLowerChar c = c ∨ isSmallLetter (asciiLowerChar c) = true := by
  by_cases hc : isAscii c = true
  · exact forall_ascii (P := fun c => asciiLowerChar c = c ∨
      isSmallLetter (asciiLowerChar c) = true) (by decide) hc
  · exact .inl (asciiLowerChar_eq_self fun hcapital => hc (isAscii_of_le hcapital.2 (by decide)))

theorem asciiLowerChar_idem (c : Char) :
    asciiLowerChar (asciiLowerChar c) = asciiLowerChar c := by
  rcases asciiLowerChar_eq_or c with hsame | hsmall
  · rw [hsame, hsame]
  · exact asciiLowerChar_of_isSmallLetter hsmall

/-- What is no small letter is nothing else in small letters. -/
theorem eq_of_asciiLowerChar {c d : Char} (hd : isSmallLetter d = false)
    (h : asciiLowerChar c = d) : c = d := by
  rcases asciiLowerChar_eq_or c with hsame | hsmall
  · exact hsame.symm.trans h
  · rw [h, hd] at hsmall
    cases hsmall

end PageBlocks.Text
