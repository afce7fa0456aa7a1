import Mathlib.Data.List.Infix
import PageBlocks.Text.Search
/-!
# What searching and splitting text finds

A piece of text occurs in a text when the text has it in one run.  At a character that it does not have,
text is neither cut nor split; where pieces without a character were joined by it, they come apart
again.

## Main results

* `occursIn_iff` — what it means that a piece of text occurs.
* `cutLast?_of_notMem` — where the last occurrence of a character is.
* `splitOn_flatMap` — pieces that were joined come apart again.
-/

namespace PageBlocks.Text

variable {c : Char} {piece rest text : List Char}

theorem startsWith_iff {lead : List Char} : startsWith lead text = true ↔ lead <+: text := by
  rw [startsWith, Option.isSome_iff_exists]
  constructor
  · rintro ⟨rest, hrest⟩
    exact ⟨rest, (dropLeading?_eq_some_iff.1 hrest).symm⟩
  · rintro ⟨rest, rfl⟩
    exact ⟨rest, dropLeading?_eq_some_iff.2 rfl⟩

/-- A piece of text occurs just where the text has it in one run. -/
theorem occursIn_iff : occursIn piece text = true ↔ piece <:+: text := by
  induction text with
  | nil => simp [occursIn]
  | cons c text ih =>
    rw [occursIn, Bool.or_eq_true_iff, startsWith_iff, ih, List.infix_cons_iff]

theorem cut?_eq_none (h : c ∉ text) : cut? [c] text = none := by
  induction text with
  | nil => rfl
  | cons d text ih =>
    obtain ⟨hd, hrest⟩ := List.ne_and_not_mem_of_not_mem_cons h
    simp [cut?, dropLeading?, hd, ih hrest]

/-- Text is not cut at a character that it does not have. -/
theorem cutLast?_eq_none (h : c ∉ text) : cutLast? [c] text = none := by
  have hreverse : c ∉ text.reverse := fun hmem => h (List.mem_reverse.1 hmem)
  rw [cutLast?, List.reverse_singleton, cut?_eq_none hreverse, Option.map_none]

theorem cut?_of_notMem {c : Char} {before after : List Char} (h : c ∉ before) :
    cut? [c] (before ++ c :: after) = some (before, after) := by
  induction before with
  | nil => simp [cut?, dropLeading?]
  | cons d before ih =>
    obtain ⟨hd, hrest⟩ := List.ne_and_not_mem_of_not_mem_cons h
    simp [cut?, dropLeading?, hd, ih hrest]

/-- Text is cut at a character that does not occur any more behind it. -/
theorem cutLast?_of_notMem {c : Char} {before after : List Char} (h : c ∉ after) :
    cutLast? [c] (before ++ c :: after) = some (before, after) := by
  have hcut : cut? [c] (after.reverse ++ c :: before.reverse) =
      some (after.reverse, before.reverse) := cut?_of_notMem (List.mem_reverse.not.2 h)
  have hreverse : (before ++ c :: after).reverse = after.reverse ++ c :: before.reverse := by simp
  rw [cutLast?, hreverse, List.reverse_singleton, hcut]
  simp

/-! ## Splitting and joining -/

theorem splitOn_cons_self : splitOn [c] (c :: rest) = [] :: splitOn [c] rest := by
  simp [splitOn, splitAfter, startsWith, dropLeading?]

theorem splitOn_cons_of_ne {d : Char} (h : c ≠ d) :
    splitOn [c] (d :: rest) = consToHead d (splitOn [c] rest) := by
  simp [splitOn, splitAfter, startsWith, dropLeading?, h]

theorem splitOn_of_notMem (h : c ∉ piece) : splitOn [c] piece = [piece] := by
  induction piece with
  | nil => rfl
  | cons d piece ih =>
    obtain ⟨hd, hpiece⟩ := List.ne_and_not_mem_of_not_mem_cons h
    rw [splitOn_cons_of_ne hd, ih hpiece]
    rfl

theorem splitOn_append (h : c ∉ piece) :
    splitOn [c] (piece ++ c :: rest) = piece :: splitOn [c] rest := by
  induction piece with
  | nil => exact splitOn_cons_self
  | cons d piece ih =>
    obtain ⟨hd, hpiece⟩ := List.ne_and_not_mem_of_not_mem_cons h
    rw [List.cons_append, splitOn_cons_of_ne hd, ih hpiece]
    rfl

/-- Pieces with a separator in front of each of them come apart there, if none of them has the
separator in it. -/
theorem splitOn_flatMap {pieces : List (List Char)} (h : ∀ piece ∈ pieces, c ∉ piece) :
    splitOn [c] (pieces.flatMap (c :: ·)) = [] :: pieces := by
  have hbehind (first : List Char) (hfirst : c ∉ first) :
      splitOn [c] (first ++ pieces.flatMap (c :: ·)) = first :: pieces := by
    induction pieces generalizing first with
    | nil =>
      rw [List.flatMap_nil, List.append_nil]
      exact splitOn_of_notMem hfirst
    | cons second pieces ih =>
      obtain ⟨hsecond, hpieces⟩ := List.forall_mem_cons.1 h
      rw [List.flatMap_cons, List.cons_append, splitOn_append hfirst, ih hpieces second hsecond]
  exact hbehind [] List.not_mem_nil

theorem joinWith_cons (separator first : List Char) (pieces : List (List Char)) :
    joinWith separator (first :: pieces) = first ++ pieces.flatMap (separator ++ ·) := by
  induction pieces generalizing first with
  | nil => simp [joinWith]
  | cons second pieces ih =>
    have hstep : joinWith separator (first :: second :: pieces) =
        first ++ (separator ++ joinWith separator (second :: pieces)) := by
      simp [joinWith]
    rw [hstep, ih, List.flatMap_cons, List.append_assoc]

end PageBlocks.Text
