import PageBlocks.Html.Lenient
import PageBlocks.Proofs.Html.Spelling
/-!
# Text that the lenient reading takes as it is written

An opening bracket that is not followed by a letter or by one of the marks that begin a declaration, an
end tag or an instruction stands for itself, and so does an ampersand that begins no reference.  Text in
which all of them do so is taken as it is written: inside of an element it becomes events of text, which
put together are the text again.

## Main results

* `Lenient.exists_readMarkup` — the next tokens of such a text.
* `Lenient.readAll_asWritten` — such a text in front of a tag, read to its end.
-/

namespace PageBlocks.Html.Lenient

/-! ## Text as it is written -/

/-- Does an opening bracket in front of this text begin anything but text? -/
def startsMarkup : List Char → Bool
  | c :: _ => isLetter c || c = '/' || c = '!' || c = '?'
  | [] => false

/-- Does every opening bracket and every ampersand of a text stand for itself? -/
def readsAsWritten : List Char → Bool
  | [] => true
  | c :: rest =>
    (if c = '<' then !startsMarkup rest
      else c ≠ '&' || (readReference? false (rest.takeWhile (· ≠ '<'))).isNone) &&
    readsAsWritten rest

/-- The part of the text that a run of text ends at. -/
theorem readsAsWritten_dropWhile {text : List Char} (h : readsAsWritten text = true)
    (p : Char → Bool) : readsAsWritten (text.dropWhile p) = true := by
  induction text with
  | nil => rfl
  | cons c rest ih =>
    rw [List.dropWhile_cons]
    split
    · exact ih (Bool.and_eq_true_iff.1 h).2
    · exact h

/-- The first run of the text holds no references. -/
theorem decode_takeWhile {text : List Char} (h : readsAsWritten text = true) :
    decode false (text.takeWhile (· ≠ '<')) = text.takeWhile (· ≠ '<') := by
  induction text with
  | nil => rfl
  | cons c rest ih =>
    rw [readsAsWritten, Bool.and_eq_true_iff] at h
    by_cases hbracket : c = '<'
    · rw [List.takeWhile_cons_of_neg (by simp [hbracket]), decode_nil]
    · rw [List.takeWhile_cons_of_pos (by simp [hbracket])]
      by_cases hc : c = '&'
      · subst hc
        have hnone : (readReference? false (rest.takeWhile (· ≠ '<'))).isNone = true := h.1
        rw [decode_ampersand (Option.isNone_iff_eq_none.1 hnone), ih h.2]
      · rw [decode_cons hc, ih h.2]

/-! ## The next tokens -/

/-- What a text in front of a tag is cut into: tokens of text, and what is left of it. -/
structure Cut (whole : List Char) (read : List Token × List Char) (tail after : List Char) : Prop where
  rest : read.2 = after ++ '<' :: tail
  isText : ∀ token ∈ read.1, token.isText = true
  joined : read.1.flatMap Token.text ++ after = whole
  length_lt : after.length < whole.length
  asWritten : readsAsWritten after = true

/-- An opening bracket that stands for itself. -/
theorem exists_readAfterBracket {rest : List Char} (hstart : startsMarkup rest = false)
    (hrest : readsAsWritten rest = true) (tail : List Char) :
    ∃ after, Cut ('<' :: rest) (readAfterBracket false (rest ++ '<' :: tail)) tail after := by
  have hcharacters (content : List Char) : ∀ token ∈ [Token.characters content],
      token.isText = true := List.forall_mem_singleton.2 rfl
  cases rest with
  | nil => exact ⟨[], rfl, hcharacters _, rfl, Nat.zero_lt_one, rfl⟩
  | cons c rest =>
    simp only [startsMarkup, Bool.or_eq_false_iff, decide_eq_false_iff_not] at hstart
    obtain ⟨⟨⟨hletter, hslash⟩, hmark⟩, hquestion⟩ := hstart
    by_cases hclose : c = '>'
    · subst hclose
      exact ⟨rest, rfl, hcharacters _, rfl, Nat.lt_add_of_pos_right Nat.zero_lt_two,
        (Bool.and_eq_true_iff.1 hrest).2⟩
    · have hread : readAfterBracket false (c :: rest ++ '<' :: tail) =
          ([.characters ['<']], c :: rest ++ '<' :: tail) := by
        rw [List.cons_append, readAfterBracket.eq_def]
        split
        · next heq => exact absurd (List.cons.inj heq).1 hmark
        · next heq => exact absurd (List.cons.inj heq).1 hslash
        · next heq => exact absurd (List.cons.inj heq).1 hslash
        · next heq => exact absurd (List.cons.inj heq).1 hslash
        · next heq => exact absurd (List.cons.inj heq).1 hquestion
        · next heq => exact absurd (List.cons.inj heq).1 hclose
        · next heq =>
          obtain ⟨rfl, rfl⟩ := List.cons.inj heq
          rw [if_neg (by simp [hletter])]
        · next heq => cases heq
      exact ⟨c :: rest, by rw [hread], by rw [hread]; exact hcharacters _, by rw [hread]; rfl,
        Nat.lt_succ_self _, hrest⟩

/-- The next tokens of a text in front of a tag. -/
theorem exists_readMarkup {text : List Char} (h : readsAsWritten text = true) (hne : text ≠ [])
    (tail : List Char) :
    ∃ after, Cut text (readMarkup false (text ++ '<' :: tail)) tail after := by
  cases text with
  | nil => exact absurd rfl hne
  | cons c rest =>
    by_cases hc : c = '<'
    · subst hc
      rw [readsAsWritten, if_pos rfl, Bool.and_eq_true_iff, Bool.not_eq_true'] at h
      exact exists_readAfterBracket h.1 h.2 tail
    · have hread := readMarkup_text hc false rest tail
      refine ⟨(c :: rest).dropWhile (· ≠ '<'), by rw [hread], ?_, ?_, ?_,
        readsAsWritten_dropWhile h _⟩
      · rw [hread]
        exact isText_textTokens _ _
      · rw [hread, flatMap_textTokens (Nat.le_refl _), decode_takeWhile h,
          List.takeWhile_append_dropWhile]
      · rw [List.dropWhile_cons_of_pos (by simp [hc])]
        exact Nat.lt_succ_of_le (length_dropWhile_le _ rest)

/-! ## Events of text -/

namespace State

/-- One step in the reading of ordinary markup. -/
theorem readAll_succ {text : List Char} (hne : text ≠ []) {state : State}
    (hcontent : state.content = .markup) (fuel : Nat) :
    readAll (fuel + 1) text state =
      readAll fuel (readMarkup false text).2 ((readMarkup false text).1.foldl take state) := by
  have hempty : ¬text.isEmpty = true := fun h => hne (List.isEmpty_iff.1 h)
  have hstate : { state with content := .markup } = state := by rw [← hcontent]
  rw [readAll, if_neg hempty, hcontent, hstate]
  rfl

/-- Records pieces of text. -/
def emitTexts (state : State) (pieces : List (List Char)) : State :=
  { state with events := (pieces.map Event.text).reverse ++ state.events }

theorem emitTexts_append (state : State) (first second : List (List Char)) :
    (state.emitTexts first).emitTexts second = state.emitTexts (first ++ second) := by
  simp [emitTexts]

/-- Is an element open in which text may stand? -/
def isInside (state : State) : Bool :=
  !List.contains ["html", "head"] (state.opened.headD "html")

theorem text_of_isInside {state : State} (h : state.isInside = true) (content : List Char) :
    state.text content = state.emitTexts (if content.isEmpty then [] else [content]) := by
  rw [isInside, Bool.not_eq_true'] at h
  rw [text, h]
  cases content <;> rfl

theorem take_of_isText {token : Token} (h : token.isText = true) (state : State) :
    state.take token = state.text token.text := by
  cases token with
  | spaces content | characters content => rfl
  | startTag _ _ _ | endTag _ | comment _ | doctype _ _ _ _ => cases h

/-- Tokens of text inside of an element are recorded piece by piece. -/
theorem foldl_take_text {tokens : List Token} (htokens : ∀ token ∈ tokens, token.isText = true)
    {state : State} (h : state.isInside = true) :
    ∃ pieces, tokens.foldl take state = state.emitTexts pieces ∧
      pieces.flatten = tokens.flatMap Token.text := by
  induction tokens generalizing state with
  | nil => exact ⟨[], rfl, rfl⟩
  | cons token tokens ih =>
    obtain ⟨htoken, hrest⟩ := List.forall_mem_cons.1 htokens
    have hnext : (state.text token.text).isInside = true := by
      rw [text_of_isInside h]
      exact h
    obtain ⟨pieces, hpieces, hflat⟩ := ih hrest hnext
    rw [List.foldl_cons, take_of_isText htoken, hpieces, text_of_isInside h, emitTexts_append]
    refine ⟨_, rfl, ?_⟩
    rw [List.flatten_append, hflat, List.flatMap_cons]
    cases token.text <;> simp

/-- A text as it is written, in front of a tag and inside of an element, is recorded as it is. -/
theorem readAll_asWritten {text : List Char} (h : readsAsWritten text = true) (tail : List Char)
    {state : State} (hinside : state.isInside = true) (hcontent : state.content = .markup) :
    ∃ pieces spare, pieces.flatten = text ∧ ∀ fuel,
      readAll (text.length + fuel) (text ++ '<' :: tail) state =
        readAll (spare + fuel) ('<' :: tail) (state.emitTexts pieces) := by
  -- each step takes at least one character, so that the induction is on the length that is left
  induction hlength : text.length using Nat.strongRecOn generalizing text state with
  | ind length ih =>
    subst hlength
    by_cases hne : text = []
    · subst hne
      exact ⟨[], 0, rfl, fun fuel => rfl⟩
    · obtain ⟨after, hcut⟩ := exists_readMarkup h hne tail
      obtain ⟨first, hfirst, hflat⟩ := foldl_take_text hcut.isText hinside
      have hinside' : (state.emitTexts first).isInside = true := hinside
      obtain ⟨pieces, spare, hpieces, hread⟩ :=
        ih after.length hcut.length_lt hcut.asWritten hinside' hcontent rfl
      refine ⟨first ++ pieces, spare + (text.length - after.length - 1), ?_, fun fuel => ?_⟩
      · rw [List.flatten_append, hflat, hpieces, hcut.joined]
      · have hsteps : text.length + fuel =
            after.length + (text.length - after.length - 1 + fuel) + 1 := by
          have := hcut.length_lt
          omega
        rw [hsteps, readAll_succ (List.append_ne_nil_of_left_ne_nil hne _) hcontent, hcut.rest,
          hfirst, hread, emitTexts_append, Nat.add_assoc]

end State

end PageBlocks.Html.Lenient
