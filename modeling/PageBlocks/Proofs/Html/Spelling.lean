import PageBlocks.Html.CharacterReference
import PageBlocks.Proofs.Html.Names
/-!
# Characters spelled by references

The references in a text are read one after another, and all else is taken as it is.  Where a
character has a meaning of its own in markup, it is written by a reference.  A value in which
characters are spelled so is read back as it was.

A run of text between tags is cut at its references and where white space begins it, and each piece
becomes a token.  Put together again, the pieces are the run with its references read.

## Main results

* `decode_append` — text without ampersands is read as it is.
* `decode_spelling` — one spelled character.
* `decode_flatMap` — a value with its characters spelled.
* `flatMap_textTokens` — what the tokens of a run of text stand for.
-/

namespace PageBlocks.Html

variable {inAttribute : Bool} {rest after characters : List Char}

/-! ## Reading references one after another -/

theorem length_dropSemicolon_le (text : List Char) : (dropSemicolon text).length ≤ text.length := by
  rw [dropSemicolon.eq_def]
  split
  · exact Nat.le_succ _
  · exact Nat.le_refl _

theorem length_dropWhile_le (p : Char → Bool) (text : List Char) :
    (text.dropWhile p).length ≤ text.length :=
  (List.dropWhile_suffix p).length_le

theorem length_le_of_readNumber? (h : readNumber? rest = some (characters, after)) :
    after.length ≤ rest.length := by
  have hdropped (p : Char → Bool) (text : List Char) :
      (dropSemicolon (text.dropWhile p)).length ≤ text.length :=
    Nat.le_trans (length_dropSemicolon_le _) (length_dropWhile_le p text)
  rw [readNumber?.eq_def] at h
  cases rest with
  | nil => cases h
  | cons x more =>
    dsimp only at h
    split at h <;> split at h
    · cases h
    · cases h
      exact Nat.le_succ_of_le (hdropped _ more)
    · cases h
    · cases h
      exact hdropped _ (x :: more)

theorem length_le_of_readName? {length : Nat}
    (h : readName? inAttribute rest length = some (characters, after)) :
    after.length ≤ rest.length := by
  have hdrop (n : Nat) : (rest.drop n).length ≤ rest.length := (List.drop_suffix n rest).length_le
  induction length with
  | zero => cases h
  | succ length ih =>
    rw [readName?] at h
    split at h
    · exact ih h
    · split at h
      · next found more hfound hmore =>
        cases h
        have hle := hdrop (length + 1)
        rw [hmore] at hle
        exact Nat.le_of_succ_le hle
      · split at h
        · split at h
          · cases h
          · cases h
            exact hdrop _
        · exact ih h
      · exact ih h

/-- What follows a reference is no longer than what follows its ampersand. -/
theorem length_le_of_readReference?
    (h : readReference? inAttribute rest = some (characters, after)) :
    after.length ≤ rest.length := by
  rw [readReference?.eq_def] at h
  split at h
  · exact Nat.le_succ_of_le (length_le_of_readNumber? h)
  · split at h
    · exact length_le_of_readName? h
    · cases h
  · cases h

theorem decodeFrom_plain {c : Char} (h : c ≠ '&') (fuel : Nat) (rest : List Char) :
    decodeFrom inAttribute (fuel + 1) (c :: rest) = c :: decodeFrom inAttribute fuel rest := by
  rw [decodeFrom]
  intro heq
  exact absurd heq h

theorem decodeFrom_reference
    (h : readReference? inAttribute rest = some (characters, after)) (fuel : Nat) :
    decodeFrom inAttribute (fuel + 1) ('&' :: rest) =
      characters ++ decodeFrom inAttribute fuel after := by
  simp only [decodeFrom, h]

/-- Any fuel is enough for a text that is no longer. -/
theorem decodeFrom_eq_of_le {fuel fuel' : Nat} {text : List Char} (h : text.length ≤ fuel)
    (h' : text.length ≤ fuel') :
    decodeFrom inAttribute fuel text = decodeFrom inAttribute fuel' text := by
  induction fuel generalizing fuel' text with
  | zero =>
    rw [List.eq_nil_of_length_eq_zero (Nat.le_zero.1 h)]
    cases fuel' <;> rfl
  | succ fuel ih =>
    cases text with
    | nil => cases fuel' <;> rfl
    | cons c rest =>
      obtain ⟨fuel', rfl⟩ := Nat.exists_eq_add_one.2 (Nat.zero_lt_of_lt h')
      rw [List.length_cons, Nat.add_le_add_iff_right] at h h'
      by_cases hc : c = '&'
      · subst hc
        cases hread : readReference? inAttribute rest with
        | none =>
          simp only [decodeFrom, hread]
          rw [ih h h']
        | some read =>
          obtain ⟨characters, after⟩ := read
          have hafter := length_le_of_readReference? hread
          rw [decodeFrom_reference hread, decodeFrom_reference hread,
            ih (Nat.le_trans hafter h) (Nat.le_trans hafter h')]
      · rw [decodeFrom_plain hc, decodeFrom_plain hc, ih h h']

theorem decodeFrom_of_le {fuel : Nat} {text : List Char} (h : text.length ≤ fuel) :
    decodeFrom inAttribute fuel text = decode inAttribute text :=
  decodeFrom_eq_of_le h (Nat.le_refl _)

@[simp] theorem decode_nil : decode inAttribute [] = [] := rfl

theorem decode_cons {c : Char} (h : c ≠ '&') (rest : List Char) :
    decode inAttribute (c :: rest) = c :: decode inAttribute rest :=
  decodeFrom_plain h _ rest

theorem decode_reference (h : readReference? inAttribute rest = some (characters, after)) :
    decode inAttribute ('&' :: rest) = characters ++ decode inAttribute after := by
  rw [← decodeFrom_of_le (length_le_of_readReference? h)]
  exact decodeFrom_reference h _

theorem decode_ampersand (h : readReference? inAttribute rest = none) :
    decode inAttribute ('&' :: rest) = '&' :: decode inAttribute rest := by
  rw [decode, List.length_cons]
  simp only [decodeFrom, h]
  rfl

/-- Text without ampersands is read as it is, whatever follows. -/
theorem decode_append {run : List Char} (h : ∀ c ∈ run, c ≠ '&') (rest : List Char) :
    decode inAttribute (run ++ rest) = run ++ decode inAttribute rest := by
  induction run with
  | nil => rfl
  | cons c run ih =>
    obtain ⟨hc, hrun⟩ := List.forall_mem_cons.1 h
    rw [List.cons_append, decode_cons hc, ih hrun, List.cons_append]

/-! ## Spelled characters -/

/-- The ways in which a character is written in a value: by itself, unless it is an ampersand, or by
a reference. -/
inductive IsSpelling : Char → List Char → Prop
  | plain {c : Char} (h : c ≠ '&') : IsSpelling c [c]
  | ampersand : IsSpelling '&' "&amp;".toList
  | less : IsSpelling '<' "&lt;".toList
  | greater : IsSpelling '>' "&gt;".toList
  | quote : IsSpelling '"' "&quot;".toList
  | lineBreak : IsSpelling '\r' "&#13;".toList

/-- The names of the characters that markup is written with are read with their semicolons,
whatever follows. -/
theorem readReference?_basic {name : String} {c : Char}
    (hname : (name, [c]) ∈ EntityTable.basicNames) (inAttribute : Bool) (rest : List Char) :
    readReference? inAttribute (name.toList ++ ';' :: rest) = some ([c], rest) := by
  have hshape : ∀ entry ∈ EntityTable.basicNames, entry.1.toList.all isLetter = true ∧
      entry.1.toList ≠ [] ∧ entry.1.toList.length ≤ EntityTable.longestName ∧
        EntityTable.basicNames.lookup entry.1 = some entry.2 := by decide
  obtain ⟨hall, hne, hlength, hlookup⟩ := hshape _ hname
  have hletters := List.all_eq_true.1 hall
  have hcharacters := EntityTable.characters?_basic hlookup
  generalize name.toList = letters at *
  have hrun : (letters ++ ';' :: rest).takeWhile isLetterOrDigit = letters := by
    rw [List.takeWhile_append_of_pos fun d hd => by simp [isLetterOrDigit, hletters d hd],
      List.takeWhile_cons_of_neg (by decide), List.append_nil]
  obtain ⟨first, more, rfl⟩ := List.exists_cons_of_ne_nil hne
  have hfirst := hletters first List.mem_cons_self
  have hhash : first ≠ '#' := by
    rintro rfl
    exact absurd hfirst (by decide)
  unfold readReference?
  split
  · next heq => exact absurd (List.cons.inj heq).1 hhash
  · next d tail _ heq =>
    obtain ⟨rfl, -⟩ := List.cons.inj heq
    rw [if_pos hfirst, hrun, Nat.min_eq_right hlength, List.length_cons, readName?]
    simp [hcharacters]
  · next heq => cases heq

/-- The reference by which a character is spelled is read as that character. -/
theorem decode_spelling {c : Char} {spelling : List Char} (h : IsSpelling c spelling)
    (rest : List Char) : decode inAttribute (spelling ++ rest) = c :: decode inAttribute rest := by
  have hbasic : ∀ (name : String) (d : Char), (name, [d]) ∈ EntityTable.basicNames →
      decode inAttribute ('&' :: (name.toList ++ ';' :: rest)) = d :: decode inAttribute rest :=
    fun name d hname => decode_reference (readReference?_basic hname inAttribute rest)
  cases h with
  | plain hc => exact decode_cons hc rest
  | ampersand => exact hbasic "amp" '&' (by decide)
  | less => exact hbasic "lt" '<' (by decide)
  | greater => exact hbasic "gt" '>' (by decide)
  | quote => exact hbasic "quot" '"' (by decide)
  | lineBreak =>
    have hnumber : readReference? inAttribute ("#13;".toList ++ rest) = some (['\r'], rest) := by
      show readNumber? ("13;".toList ++ rest) = _
      rfl
    exact decode_reference hnumber

/-- A value with its characters spelled is read back as it was. -/
theorem decode_flatMap {spell : Char → List Char} (h : ∀ c, IsSpelling c (spell c))
    (inAttribute : Bool) (value : List Char) :
    decode inAttribute (value.flatMap spell) = value := by
  induction value with
  | nil => rfl
  | cons c rest ih => rw [List.flatMap_cons, decode_spelling (h c), ih]

/-! ## Tokens of text -/

/-- Is a token one of text? -/
def Token.isText : Token → Bool
  | .spaces _ | .characters _ => true
  | _ => false

/-- The text that a token stands for. -/
def Token.text : Token → List Char
  | .spaces content | .characters content => content
  | _ => []

theorem isText_textTokens (fuel : Nat) (text : List Char) :
    ∀ token ∈ textTokens fuel text, token.isText = true := by
  fun_induction textTokens fuel text with
  | case1 | case2 => exact List.forall_mem_nil _
  | case3 fuel rest c after _ ih => exact List.forall_mem_cons.2 ⟨by split <;> rfl, ih⟩
  | case4 fuel rest characters after _ _ ih => exact List.forall_mem_cons.2 ⟨rfl, ih⟩
  | case5 fuel rest _ ih => exact List.forall_mem_cons.2 ⟨rfl, ih⟩
  | case6 fuel c rest _ _ ih => exact List.forall_mem_cons.2 ⟨rfl, ih⟩
  | case7 fuel c rest _ _ ih => exact List.forall_mem_cons.2 ⟨rfl, ih⟩

/-- A beginning without ampersands is read as it is. -/
theorem decode_takeWhile_append (p : Char → Bool) (hp : ∀ c, p c = true → c ≠ '&')
    (text : List Char) :
    text.takeWhile p ++ decode inAttribute (text.dropWhile p) = decode inAttribute text := by
  have hrun : ∀ c ∈ text.takeWhile p, c ≠ '&' := fun c hc =>
    hp c (List.all_eq_true.1 List.all_takeWhile c hc)
  rw [← decode_append hrun, List.takeWhile_append_dropWhile]

/-- The tokens of a run of text stand for the run with its references read. -/
theorem flatMap_textTokens {fuel : Nat} {text : List Char} (h : text.length ≤ fuel) :
    (textTokens fuel text).flatMap Token.text = decode false text := by
  have hdrop (p : Char → Bool) {rest : List Char} {fuel : Nat} (hrest : rest.length + 1 ≤ fuel + 1) :
      (rest.dropWhile p).length ≤ fuel :=
    Nat.le_trans (length_dropWhile_le p rest) (Nat.le_of_succ_le_succ hrest)
  have hread {rest characters after : List Char} {fuel : Nat} (hrest : rest.length + 1 ≤ fuel + 1)
      (hread : readReference? false rest = some (characters, after)) : after.length ≤ fuel :=
    Nat.le_trans (length_le_of_readReference? hread) (Nat.le_of_succ_le_succ hrest)
  fun_induction textTokens fuel text with
  | case1 text =>
    rw [List.eq_nil_of_length_eq_zero (Nat.le_zero.1 h)]
    rfl
  | case2 => rfl
  | case3 fuel rest c after hone ih =>
    rw [List.flatMap_cons, ih (hread h hone), decode_reference hone]
    split <;> rfl
  | case4 fuel rest characters after _ hsome ih =>
    rw [List.flatMap_cons, ih (hread h hsome), decode_reference hsome]
    rfl
  | case5 fuel rest hnone ih =>
    rw [List.flatMap_cons, ih (hdrop _ h), decode_ampersand hnone,
      ← decode_takeWhile_append isLetterOrDigit _ rest]
    · rfl
    · rintro c hc rfl
      cases hc
  | case6 fuel c rest hc _ ih =>
    rw [List.flatMap_cons, ih (hdrop _ h), decode_cons hc,
      ← decode_takeWhile_append isSpace _ rest]
    · rfl
    · rintro c hc rfl
      cases hc
  | case7 fuel c rest hc _ ih =>
    rw [List.flatMap_cons, ih (hdrop _ h), decode_cons hc,
      ← decode_takeWhile_append (· ≠ '&') _ rest]
    · rfl
    · intro c hc
      exact of_decide_eq_true hc

/-- A run of text ends at the tag that it stands in front of. -/
theorem run_append (text tail : List Char) :
    (text ++ '<' :: tail).takeWhile (· ≠ '<') = text.takeWhile (· ≠ '<') ∧
      (text ++ '<' :: tail).dropWhile (· ≠ '<') = text.dropWhile (· ≠ '<') ++ '<' :: tail := by
  induction text with
  | nil => simp
  | cons c rest ih =>
    rw [List.cons_append, List.takeWhile_cons, List.takeWhile_cons, List.dropWhile_cons,
      List.dropWhile_cons, ih.1, ih.2]
    split
    · exact ⟨rfl, rfl⟩
    · exact ⟨rfl, rfl⟩

/-- Ordinary markup that begins with text is read up to the next tag. -/
theorem readMarkup_text {c : Char} (hc : c ≠ '<') (sectionsAllowed : Bool) (rest tail : List Char) :
    readMarkup sectionsAllowed (c :: rest ++ '<' :: tail) =
      (textTokens ((c :: rest).takeWhile (· ≠ '<')).length ((c :: rest).takeWhile (· ≠ '<')),
        (c :: rest).dropWhile (· ≠ '<') ++ '<' :: tail) := by
  rw [← (run_append (c :: rest) tail).1, ← (run_append (c :: rest) tail).2, readMarkup.eq_def]
  split
  · next heq => exact absurd (List.cons.inj heq).1 hc
  · rfl

end PageBlocks.Html
