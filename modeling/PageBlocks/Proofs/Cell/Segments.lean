import Mathlib.Data.List.Chain
import Mathlib.Data.List.Forall2
import Mathlib.Data.List.Infix
import PageBlocks.Cell.Spec
/-!
# Markup comes apart into segments

The segments of markup tile it: side by side, with what stands for each place between its braces, they
are the markup again.  Places are found from the left, and each of them ends at the first closing
braces that leave a character between them and the opening ones.  So no place is left over in a literal,
however the braces are nested or left open.

## Main results

* `Template.segments_induct` — markup is read place by place and character by character.
* `Template.Tiles.place`, `Template.Tiles.character` — what one step of reading adds.
* `Template.segments_tile` — the segments of markup tile it.
-/

namespace PageBlocks

open PageBlocks.Text

/-! ## Places -/

namespace Template

variable {c : Char} {markup text rest word after : List Char} {row : List Segment}

/-- Double braces around a word of at least one character, on one line. -/
def IsPlace (piece word : List Char) : Prop :=
  piece = '{' :: '{' :: (word ++ ['}', '}']) ∧ word ≠ [] ∧ '\n' ∉ word

/-- What is found up to braces is followed by them, on one line. -/
theorem eq_append_of_upToBraces? (h : upToBraces? text = some (word, after)) :
    text = word ++ '}' :: '}' :: after ∧ '\n' ∉ word := by
  fun_induction upToBraces? text generalizing word after with
  | case1 rest =>
    cases h
    exact ⟨rfl, List.not_mem_nil⟩
  | case2 rest => cases h
  | case3 c rest hbraces hline ih =>
    obtain ⟨⟨inside, behind⟩, hrest, heq⟩ := Option.map_eq_some_iff.1 h
    cases heq
    obtain ⟨hsame, hfree⟩ := ih hrest
    refine ⟨congrArg (c :: ·) hsame, ?_⟩
    rw [List.mem_cons, not_or]
    exact ⟨fun hc => hline hc.symm, hfree⟩
  | case4 => cases h

/-- Where braces follow a word on one line, braces are found, and at the latest these. -/
theorem exists_upToBraces? (hword : '\n' ∉ word) (after : List Char) :
    ∃ inside behind, upToBraces? (word ++ '}' :: '}' :: after) = some (inside, behind) ∧
      inside.length ≤ word.length := by
  generalize htext : word ++ '}' :: '}' :: after = text
  fun_induction upToBraces? text generalizing word with
  | case1 rest => exact ⟨[], rest, rfl, Nat.zero_le _⟩
  | case2 rest =>
    cases word with
    | nil => cases htext
    | cons c word =>
      cases htext
      exact absurd List.mem_cons_self hword
  | case3 c rest hbraces hline ih =>
    cases word with
    | nil =>
      cases htext
      exact absurd rfl (hbraces after rfl)
    | cons d word =>
      obtain ⟨rfl, hrest⟩ := List.cons.inj htext
      obtain ⟨inside, behind, hfound, hle⟩ := ih (fun h => hword (.tail d h)) hrest
      exact ⟨d :: inside, behind, by rw [hfound]; rfl, Nat.succ_le_succ hle⟩
  | case4 => cases word <;> cases htext

/-- Where a text begins with a place one is found, and it is no longer than this one. -/
theorem exists_placeholder? {piece : List Char} (h : IsPlace piece word) (after : List Char) :
    ∃ found behind, placeholder? (piece ++ after) = some (found, behind) ∧
      found.length ≤ word.length := by
  obtain ⟨rfl, hne, hline⟩ := h
  cases word with
  | nil => exact absurd rfl hne
  | cons c word =>
    obtain ⟨hc, hword⟩ := List.ne_and_not_mem_of_not_mem_cons hline
    obtain ⟨inside, behind, hfound, hle⟩ := exists_upToBraces? hword after
    refine ⟨c :: inside, behind, ?_, Nat.succ_le_succ hle⟩
    show placeholder? ('{' :: '{' :: c :: (word ++ ['}', '}'] ++ after)) = _
    rw [placeholder?, if_neg hc.symm, List.append_assoc]
    show (upToBraces? (word ++ '}' :: '}' :: after)).map _ = _
    rw [hfound]
    rfl

/-- What is found at the beginning of a text is a place, and what is behind it. -/
theorem isPlace_of_placeholder? (h : placeholder? text = some (word, after)) :
    ∃ piece, IsPlace piece word ∧ text = piece ++ after := by
  unfold placeholder? at h
  split at h
  · next c rest =>
    split at h
    · cases h
    · next hc =>
      obtain ⟨⟨inside, behind⟩, hrest, heq⟩ := Option.map_eq_some_iff.1 h
      cases heq
      obtain ⟨rfl, hinside⟩ := eq_append_of_upToBraces? hrest
      refine ⟨_, ⟨rfl, List.cons_ne_nil c inside, ?_⟩, by simp⟩
      rw [List.mem_cons, not_or]
      exact ⟨fun heq => hc heq.symm, hinside⟩
  · cases h

/-- No shorter place begins a place that was found. -/
theorem eq_of_placeholder? {piece other inside : List Char}
    (h : placeholder? (piece ++ after) = some (word, after)) (hpiece : IsPlace piece word)
    (hother : IsPlace other inside) (hlead : other <+: piece) : other = piece := by
  obtain ⟨more, rfl⟩ := hlead
  obtain ⟨found, behind, hfound, hle⟩ := exists_placeholder? hother (more ++ after)
  rw [← List.append_assoc, h] at hfound
  cases hfound
  refine List.IsPrefix.eq_of_length_le (List.prefix_append other more) ?_
  rw [hpiece.1, hother.1]
  simp only [List.length_cons, List.length_append, List.length_nil]
  omega

/-! ## Reading step by step -/

theorem segmentsFrom_append (front rest : List Char) :
    segmentsFrom front.length (front ++ rest) = segmentsFrom 0 rest := by
  induction front with
  | nil => rfl
  | cons c front ih => exact ih

/-- A place is read as a whole. -/
theorem segments_append {piece : List Char}
    (h : placeholder? (piece ++ after) = some (word, after)) (hpiece : IsPlace piece word) :
    segments (piece ++ after) = .placeholder (trim word) :: segments after := by
  obtain ⟨rfl, -, -⟩ := hpiece
  rw [List.cons_append] at h ⊢
  rw [segments, segmentsFrom, h]
  have hlength : ('{' :: (word ++ ['}', '}']) ++ after).length - after.length =
      ('{' :: (word ++ ['}', '}'])).length := by
    rw [List.length_append]
    omega
  dsimp only
  rw [hlength, segmentsFrom_append]
  rfl

/-- Where no place begins, one character is read. -/
theorem segments_cons (h : placeholder? (c :: rest) = none) :
    segments (c :: rest) = consLiteral c (segments rest) := by
  rw [segments, segmentsFrom, h]
  rfl

/-- Markup is read place by place and character by character. -/
theorem segments_induct {motive : List Char → Prop} (nil : motive [])
    (place : ∀ piece word after, IsPlace piece word →
      placeholder? (piece ++ after) = some (word, after) → motive after → motive (piece ++ after))
    (character : ∀ c rest, placeholder? (c :: rest) = none → motive rest → motive (c :: rest))
    (markup : List Char) : motive markup := by
  induction hlength : markup.length using Nat.strong_induction_on generalizing markup with
  | h length ih =>
    subst hlength
    cases hfound : placeholder? markup with
    | none =>
      cases markup with
      | nil => exact nil
      | cons c rest => exact character c rest hfound (ih _ (Nat.lt_succ_self _) rest rfl)
    | some found =>
      obtain ⟨word, after⟩ := found
      obtain ⟨piece, hpiece, rfl⟩ := isPlace_of_placeholder? hfound
      refine place piece word after hpiece hfound (ih _ ?_ after rfl)
      rw [hpiece.1, List.cons_append, List.length_cons, List.length_append]
      omega

/-! ## Tiling -/

end Template

namespace Segment

/-- Is the segment to be taken as it is? -/
def isLiteral : Segment → Bool
  | literal _ => true
  | placeholder _ => false

/-- A segment is what a piece of markup says: this text, or the trimmed word of a place that no
shorter place begins. -/
def Covers : Segment → List Char → Prop
  | literal text, piece => piece = text
  | placeholder expression, piece => ∃ word, Template.IsPlace piece word ∧ trim word = expression ∧
      ∀ other inside, Template.IsPlace other inside → other <+: piece → other = piece

end Segment

namespace Template

/-- Is there a place anywhere in a text? -/
def HasPlace (text : List Char) : Prop :=
  ∃ piece word, IsPlace piece word ∧ piece <:+: text

/-- Segments side by side that make up a text: literals have something in them but no place, and
what is between two of them is a place. -/
structure Tiles (markup : List Char) (row : List Segment) : Prop where
  covered : ∃ pieces, List.Forall₂ Segment.Covers row pieces ∧ pieces.flatten = markup
  literal : ∀ text, .literal text ∈ row → text ≠ [] ∧ ¬HasPlace text
  apart : row.IsChain fun first second => ¬(first.isLiteral = true ∧ second.isLiteral = true)

namespace Tiles

theorem nil : Tiles [] [] where
  covered := ⟨[], .nil, rfl⟩
  literal _ h := absurd h List.not_mem_nil
  apart := .nil

/-- A place may stand in front of any segments. -/
theorem place {piece : List Char} (h : Tiles after row) (hpiece : IsPlace piece word)
    (hshort : ∀ other inside, IsPlace other inside → other <+: piece → other = piece) :
    Tiles (piece ++ after) (.placeholder (trim word) :: row) where
  covered := by
    obtain ⟨pieces, hcovers, rfl⟩ := h.covered
    exact ⟨piece :: pieces, .cons ⟨word, hpiece, rfl, hshort⟩ hcovers, rfl⟩
  literal text hmem := by
    rcases List.mem_cons.1 hmem with heq | hmem
    · cases heq
    · exact h.literal text hmem
  apart := List.isChain_cons.2 ⟨fun _ _ both => Bool.false_ne_true both.1, h.apart⟩

/-- A new literal begins where no other one follows. -/
theorem begin (h : Tiles rest row) (hrow : ∀ first ∈ row.head?, first.isLiteral = false)
    (hplace : ¬HasPlace [c]) : Tiles (c :: rest) (.literal [c] :: row) where
  covered := by
    obtain ⟨pieces, hcovers, rfl⟩ := h.covered
    exact ⟨[c] :: pieces, .cons rfl hcovers, rfl⟩
  literal text hmem := by
    rcases List.mem_cons.1 hmem with heq | hmem
    · cases heq
      exact ⟨List.cons_ne_nil c [], hplace⟩
    · exact h.literal text hmem
  apart := by
    refine List.isChain_cons.2 ⟨fun first hfirst both => ?_, h.apart⟩
    rw [hrow first hfirst] at both
    exact Bool.false_ne_true both.2

/-- The literal that comes first may be longer. -/
theorem extend (h : Tiles rest (.literal text :: row)) (hplace : ¬HasPlace (c :: text)) :
    Tiles (c :: rest) (.literal (c :: text) :: row) where
  covered := by
    obtain ⟨pieces, hcovers, rfl⟩ := h.covered
    cases hcovers with
    | cons hfirst hrest =>
      cases hfirst
      exact ⟨_, .cons rfl hrest, rfl⟩
  literal other hmem := by
    rcases List.mem_cons.1 hmem with heq | hmem
    · cases heq
      exact ⟨List.cons_ne_nil c text, hplace⟩
    · exact h.literal other (.tail _ hmem)
  apart := List.isChain_cons.2 (List.isChain_cons.1 h.apart)

/-- A literal that comes first begins the markup. -/
theorem prefix_of_literal (h : Tiles rest (.literal text :: row)) : text <+: rest := by
  obtain ⟨pieces, hcovers, rfl⟩ := h.covered
  cases hcovers with
  | cons hfirst hrest =>
    cases hfirst
    exact List.prefix_append _ _

end Tiles

theorem not_hasPlace_nil : ¬HasPlace [] := by
  rintro ⟨piece, word, ⟨rfl, -, -⟩, hinfix⟩
  exact List.cons_ne_nil _ _ (List.infix_nil.1 hinfix)

/-- A longer text has no place if no place begins with its first character. -/
theorem not_hasPlace_cons (hstart : ∀ piece word, IsPlace piece word → ¬piece <+: c :: text)
    (h : ¬HasPlace text) : ¬HasPlace (c :: text) := by
  rintro ⟨piece, word, hpiece, hinfix⟩
  rcases List.infix_cons_iff.1 hinfix with hlead | hinfix
  · exact hstart piece word hpiece hlead
  · exact h ⟨piece, word, hpiece, hinfix⟩

/-- A character with which no place begins belongs to the first literal. -/
theorem Tiles.character (h : Tiles rest row)
    (hstart : ∀ piece word, IsPlace piece word → ¬piece <+: c :: rest) :
    Tiles (c :: rest) (consLiteral c row) := by
  have hshorter {text : List Char} (htext : text <+: rest) :
      ∀ piece word, IsPlace piece word → ¬piece <+: c :: text :=
    fun piece word hpiece hlead =>
      hstart piece word hpiece (hlead.trans (List.prefix_cons_inj c |>.2 htext))
  have halone : ¬HasPlace [c] := not_hasPlace_cons (hshorter List.nil_prefix) not_hasPlace_nil
  match row, h with
  | [], h => exact h.begin (fun _ hfirst => nomatch hfirst) halone
  | .placeholder expression :: row, h =>
    refine h.begin (fun first hfirst => ?_) halone
    cases hfirst
    rfl
  | .literal text :: row, h =>
    have hfree : ¬HasPlace text := (h.literal text List.mem_cons_self).2
    exact h.extend (not_hasPlace_cons (hshorter h.prefix_of_literal) hfree)

/-- The segments of markup tile it. -/
theorem segments_tile (markup : List Char) : Tiles markup (segments markup) := by
  induction markup using segments_induct with
  | nil => exact .nil
  | place piece word after hpiece hfound ih =>
    rw [segments_append hfound hpiece]
    exact ih.place hpiece fun other inside => eq_of_placeholder? hfound hpiece
  | character c rest hnone ih =>
    rw [segments_cons hnone]
    refine ih.character fun piece word hpiece hlead => ?_
    obtain ⟨after, hafter⟩ := hlead
    obtain ⟨found, behind, hfound, -⟩ := exists_placeholder? hpiece after
    rw [hafter, hnone] at hfound
    cases hfound

/-- Of nested braces the outer ones open a place and the inner ones close it. -/
example : segments "\x7b\x7b\x7ba\x7d\x7d\x7d\x7b\x7b b \x7d\x7d".toList =
    [.placeholder ['\x7b', 'a'], .literal ['\x7d'], .placeholder ['b']] := by
  decide

end Template

end PageBlocks
