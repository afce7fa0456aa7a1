import PageBlocks.Text.Blank
/-!
# Trimmed text

Trimming leaves text that neither begins nor ends with a blank character, and leaves such text as it
is.  Blank characters around a text make no difference once it is trimmed.

## Main results

* `isTrimmed_trim` — trimming leaves trimmed text.
* `trim_eq_self_iff` — just trimmed text stays what it is.
* `trim_append_blank`, `trim_blank_append` — blank characters around a text make no difference.
-/

namespace PageBlocks.Text

/-- Text that neither begins nor ends with a blank character. -/
def IsTrimmed (text : List Char) : Prop :=
  (∀ c ∈ text.head?, isBlank c = false) ∧ ∀ c ∈ text.getLast?, isBlank c = false

-- the first and the last character are looked at, not all that there are
instance (text : List Char) : Decidable (IsTrimmed text) :=
  @instDecidableAnd _ _ (Option.decidableForallMem text.head?)
    (Option.decidableForallMem text.getLast?)

theorem isBlank_head?_trimLeft {text : List Char} {c : Char} (h : c ∈ (trimLeft text).head?) :
    isBlank c = false := by
  have hnot := List.head?_dropWhile_not isBlank text
  rw [trimLeft, Option.mem_def] at h
  rw [h] at hnot
  exact hnot

/-- Trimming on the right leaves the beginning of a text. -/
theorem trimRight_prefix (text : List Char) : trimRight text <+: text := by
  rw [trimRight, ← List.reverse_suffix, List.reverse_reverse]
  exact List.dropWhile_suffix isBlank

/-- Trimming leaves trimmed text. -/
theorem isTrimmed_trim (text : List Char) : IsTrimmed (trim text) := by
  constructor
  · intro c hc
    obtain ⟨rest, hrest⟩ := trimRight_prefix (trimLeft text)
    have hfirst : c ∈ (trimLeft text).head? := by
      rw [← hrest, List.head?_append, Option.mem_def]
      rw [trim, Option.mem_def] at hc
      rw [hc, Option.some_or]
    exact isBlank_head?_trimLeft hfirst
  · intro c hc
    rw [trim, trimRight, List.getLast?_reverse] at hc
    exact isBlank_head?_trimLeft hc

theorem trim_eq_nil_iff {text : List Char} : trim text = [] ↔ ∀ c ∈ text, isBlank c = true := by
  constructor
  · intro h
    rw [trim, trimRight_eq_nil_iff] at h
    -- what is left on the left begins with no blank, so that nothing is left there either
    cases hleft : trimLeft text with
    | nil => exact trimLeft_eq_nil_iff.1 hleft
    | cons c rest =>
      have hblank := h c (by rw [hleft]; exact List.mem_cons_self)
      have hfirst : c ∈ (trimLeft text).head? := by rw [hleft]; rfl
      have hnot := isBlank_head?_trimLeft hfirst
      rw [hblank] at hnot
      cases hnot
  · intro h
    rw [trim, trimLeft_eq_nil_iff.2 h]
    rfl

theorem trimLeft_eq_self {text : List Char} (h : ∀ c ∈ text.head?, isBlank c = false) :
    trimLeft text = text := by
  cases text with
  | nil => rfl
  | cons c rest => exact List.dropWhile_cons_of_neg (Bool.eq_false_iff.1 (h c rfl))

theorem trimRight_eq_self {text : List Char} (h : ∀ c ∈ text.getLast?, isBlank c = false) :
    trimRight text = text := by
  have hreverse : trimLeft text.reverse = text.reverse :=
    trimLeft_eq_self fun c hc => h c (List.head?_reverse ▸ hc)
  rw [trimRight, ← trimLeft, hreverse, List.reverse_reverse]

theorem trim_eq_self_iff {text : List Char} : trim text = text ↔ IsTrimmed text := by
  constructor
  · intro h
    rw [← h]
    exact isTrimmed_trim text
  · intro h
    rw [trim, trimLeft_eq_self h.1, trimRight_eq_self h.2]

theorem trimRight_append_blank {text gap : List Char} (h : ∀ c ∈ gap, isBlank c = true) :
    trimRight (text ++ gap) = trimRight text := by
  have hgap : ∀ c ∈ gap.reverse, isBlank c = true := fun c hc => h c (List.mem_reverse.1 hc)
  rw [trimRight, trimRight, List.reverse_append, List.dropWhile_append_of_pos hgap]

/-- Blank characters at the end make no difference. -/
theorem trim_append_blank {text gap : List Char} (h : ∀ c ∈ gap, isBlank c = true) :
    trim (text ++ gap) = trim text := by
  by_cases hblank : ∀ c ∈ text, isBlank c = true
  · have hboth : ∀ c ∈ text ++ gap, isBlank c = true :=
      fun c hc => (List.mem_append.1 hc).elim (hblank c) (h c)
    rw [trim_eq_nil_iff.2 hblank, trim_eq_nil_iff.2 hboth]
  · -- something is left of the text on the left, in front of what stands behind it
    have hleft : trimLeft text ≠ [] := fun hnil => hblank (trimLeft_eq_nil_iff.1 hnil)
    have happend : trimLeft (text ++ gap) = trimLeft text ++ gap := by
      rw [trimLeft, List.dropWhile_append, if_neg]
      · rfl
      · rwa [List.isEmpty_iff]
    rw [trim, happend, trimRight_append_blank h, trim]

/-- Blank characters at the start make no difference. -/
theorem trim_blank_append {text gap : List Char} (h : ∀ c ∈ gap, isBlank c = true) :
    trim (gap ++ text) = trim text := by
  rw [trim, trim, trimLeft, List.dropWhile_append_of_pos h, trimLeft]

theorem trim_of_noBlank {text : List Char} (h : ∀ c ∈ text, isBlank c = false) :
    trim text = text :=
  trim_eq_self_iff.2
    ⟨fun c hc => h c (List.mem_of_mem_head? hc), fun c hc => h c (List.mem_of_mem_getLast? hc)⟩

end PageBlocks.Text
