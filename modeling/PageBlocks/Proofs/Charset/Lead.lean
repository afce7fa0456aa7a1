import Mathlib.Computability.Language
import Mathlib.Data.List.TakeWhile
import PageBlocks.Charset.Declared
import PageBlocks.Proofs.Text.Case
/-!
# Names behind leads

What is in front of the name of a character set is a word of a regular language.  A reader that goes on
as long as it can, and gives way only where it finds no name, finds the name behind the longest of these
words.  It does so if no lead goes further than another one that begins behind its start, which
holds where each lead has one character that none has later on.

## Main results

* `Finds.afterMany` — the last lead is the longest.
* `ordered_of_place` — when no lead goes further than a later one.
* `finds_written?` — both readers of declarations find the names behind the longest leads.
-/

namespace PageBlocks.Charset

open PageBlocks.Text

/-! ## Leads -/

/-- A word in any letter case. -/
def spelled (word : String) : Language Char :=
  {text | asciiLower text = word.toList}

/-- One character of a kind. -/
def oneOf (kind : Char → Prop) : Language Char :=
  {text | ∃ c, kind c ∧ text = [c]}

/-- Any number of characters of a kind. -/
def manyOf (kind : Char → Prop) : Language Char :=
  {text | ∀ c ∈ text, kind c}

/-- The two ways to declare a character set. -/
inductive Form where
  /-- In an attribute of its own. -/
  | own
  | contentType
deriving DecidableEq, Repr

/-- What is between the start of a tag and the name. -/
def Form.opening : Form → Language Char
  | own => spelled "charset=" * ((1 + oneOf (isMark ·)) * manyOf (isBlank ·))
  | contentType =>
    spelled "content=" * (oneOf (isMark ·) * (manyOf (¬isMark ·) * spelled "charset="))

/-- What is in front of the name, from the tag on. -/
def Form.lead (form : Form) : Language Char :=
  spelled "<meta" * (oneOf (· ≠ '>') * (manyOf (· ≠ '>') * form.opening))

/-- A name that goes on as far as it can. -/
structure IsToken (name after : List Char) : Prop where
  ne_nil : name ≠ []
  within : ∀ c ∈ name, isNameChar c = true
  ends : ∀ c ∈ after.head?, isNameChar c = false

/-- A lead of a language and a name behind it are at the start of a text. -/
structure Stands (L : Language Char) (text lead name after : List Char) : Prop where
  mem : lead ∈ L
  token : IsToken name after
  split : text = lead ++ (name ++ after)

/-- The reader finds a name where one is behind a lead of the language, and it is behind the longest
such lead. -/
structure Finds (read? : List Char → Option (List Char)) (L : Language Char) : Prop where
  sound : ∀ {text name}, read? text = some name → ∃ lead after, Stands L text lead name after ∧
    ∀ {lead' name' after'}, Stands L text lead' name' after' → lead'.length ≤ lead.length
  complete : ∀ {text lead name after}, Stands L text lead name after → read? text ≠ none

variable {read? outer? : List Char → Option (List Char)} {K L : Language Char}

/-! ## Readers -/

theorem IsToken.takeWhile {name after : List Char} (h : IsToken name after) :
    (name ++ after).takeWhile isNameChar = name := by
  rw [List.takeWhile_append_of_pos h.within]
  cases after with
  | nil => simp
  | cons c after => simp [h.ends c rfl]

theorem finds_readName? : Finds readName? 1 where
  sound {text name} h := by
    rw [readName?] at h
    split at h
    · cases h
    · next hne =>
      cases h
      refine ⟨[], text.dropWhile isNameChar, ⟨(Language.mem_one _).2 rfl, ⟨?_, ?_, ?_⟩, ?_⟩, ?_⟩
      · simpa using hne
      · exact fun c hc => List.mem_takeWhile_imp hc
      · intro c hc
        have hnot := List.head?_dropWhile_not isNameChar text
        rw [Option.mem_def.1 hc] at hnot
        exact hnot
      · rw [List.nil_append, List.takeWhile_append_dropWhile]
      · intro lead' name' after' hstands
        rw [(Language.mem_one _).1 hstands.mem]
  complete {text lead name after} h := by
    rw [h.split, (Language.mem_one _).1 h.mem, List.nil_append, readName?, h.token.takeWhile]
    simp [h.token.ne_nil]

/-- Behind texts of one length, which are all that the outer reader passes over, the inner reader's leads
are found. -/
theorem Finds.after {length : Nat} (h : Finds read? L) (hlength : ∀ first ∈ K, first.length = length)
    (houter : ∀ text name, outer? text = some name ↔
      ∃ first ∈ K, ∃ rest, text = first ++ rest ∧ read? rest = some name) :
    Finds outer? (K * L) where
  sound {text name} hread := by
    obtain ⟨first, hfirst, rest, rfl, hrest⟩ := (houter _ _).1 hread
    obtain ⟨lead, after, hstands, hlongest⟩ := h.sound hrest
    refine ⟨first ++ lead, after, ⟨Language.mem_mul.2 ⟨first, hfirst, lead, hstands.mem, rfl⟩,
      hstands.token, by rw [hstands.split, List.append_assoc]⟩, fun {lead' name' after'} hother => ?_⟩
    obtain ⟨first', hfirst', lead', hlead', rfl⟩ := Language.mem_mul.1 hother.mem
    have hsame : first.length = first'.length :=
      (hlength first hfirst).trans (hlength first' hfirst').symm
    have hsplit := hother.split
    rw [List.append_assoc] at hsplit
    obtain ⟨rfl, hrest'⟩ := List.append_inj hsplit hsame
    have hle := hlongest ⟨hlead', hother.token, hrest'⟩
    rw [List.length_append, List.length_append]
    omega
  complete {text lead name after} hstands := by
    obtain ⟨first, hfirst, lead, hlead, rfl⟩ := Language.mem_mul.1 hstands.mem
    obtain ⟨found, hfound⟩ := Option.ne_none_iff_exists'.1 (h.complete ⟨hlead, hstands.token, rfl⟩)
    have hread := (houter text found).2
      ⟨first, hfirst, _, by rw [hstands.split, List.append_assoc], hfound⟩
    rw [hread]
    exact Option.some_ne_none found

theorem length_of_mem_spelled {word : String} {text : List Char} (h : text ∈ spelled word) :
    text.length = word.length := by
  rw [← length_asciiLower, h, String.length_toList]

theorem length_of_mem_oneOf {kind : Char → Prop} {text : List Char} (h : text ∈ oneOf kind) :
    text.length = 1 := by
  obtain ⟨c, -, rfl⟩ := h
  rfl

theorem dropWord?_eq_some_iff {word : String} {text rest : List Char} :
    dropWord? word text = some rest ↔ ∃ first ∈ spelled word, text = first ++ rest := by
  constructor
  · intro h
    rw [dropWord?] at h
    split at h
    · next hword =>
      cases h
      exact ⟨text.take word.length, hword, (List.take_append_drop _ _).symm⟩
    · cases h
  · rintro ⟨first, hfirst, rfl⟩
    have hlength := length_of_mem_spelled hfirst
    rw [dropWord?, ← hlength, List.take_left, List.drop_left]
    exact if_pos hfirst

/-- Leads go on behind a word. -/
theorem Finds.afterWord (h : Finds read? L) (word : String) :
    Finds (fun text => (dropWord? word text).bind read?) (spelled word * L) := by
  refine h.after (fun first => length_of_mem_spelled) fun text name => ?_
  rw [Option.bind_eq_some_iff]
  constructor
  · rintro ⟨rest, hrest, hread⟩
    obtain ⟨first, hfirst, htext⟩ := dropWord?_eq_some_iff.1 hrest
    exact ⟨first, hfirst, rest, htext, hread⟩
  · rintro ⟨first, hfirst, rest, htext, hread⟩
    exact ⟨rest, dropWord?_eq_some_iff.2 ⟨first, hfirst, htext⟩, hread⟩

theorem lastBefore?_eq_none {ends : Char → Bool} {text : List Char}
    (h : lastBefore? ends read? text = none) {gap rest : List Char}
    (hgap : ∀ c ∈ gap, ends c = false) (hsplit : text = gap ++ rest) : read? rest = none := by
  induction text generalizing gap with
  | nil =>
    obtain ⟨rfl, rfl⟩ := List.append_eq_nil_iff.1 hsplit.symm
    exact h
  | cons c text ih =>
    rw [lastBefore?] at h
    cases gap with
    | nil =>
      rw [List.nil_append] at hsplit
      split at h
      · rwa [← hsplit]
      · rw [← hsplit]
        exact (Option.or_eq_none_iff.1 h).2
    | cons g gap =>
      obtain ⟨rfl, hrest⟩ := List.cons.inj hsplit
      obtain ⟨hg, hgap⟩ := List.forall_mem_cons.1 hgap
      rw [if_neg (Bool.eq_false_iff.1 hg), Option.or_eq_none_iff] at h
      exact ih h.1 hgap hrest

/-- What is read in the latest part is not read in any later one. -/
theorem lastBefore?_eq_some {ends : Char → Bool} {text name : List Char}
    (h : lastBefore? ends read? text = some name) :
    ∃ gap rest, (∀ c ∈ gap, ends c = false) ∧ text = gap ++ rest ∧ read? rest = some name ∧
      ∀ gap' rest', (∀ c ∈ gap', ends c = false) → text = gap' ++ rest' →
        gap.length < gap'.length → read? rest' = none := by
  induction text with
  | nil =>
    refine ⟨[], [], by simp, rfl, h, fun gap' rest' _ hsplit hlonger => ?_⟩
    obtain ⟨rfl, -⟩ := List.append_eq_nil_iff.1 hsplit.symm
    cases hlonger
  | cons c text ih =>
    rw [lastBefore?] at h
    by_cases hc : ends c = true
    · rw [if_pos hc] at h
      refine ⟨[], c :: text, by simp, rfl, h, fun gap' rest' hgap' hsplit hlonger => ?_⟩
      obtain ⟨g, gap', rfl⟩ := List.exists_cons_of_length_pos hlonger
      obtain ⟨rfl, -⟩ := List.cons.inj hsplit
      rw [hgap' c List.mem_cons_self] at hc
      cases hc
    · rw [if_neg hc] at h
      cases hlater : lastBefore? ends read? text with
      | some found =>
        rw [hlater, Option.some_or] at h
        cases h
        obtain ⟨gap, rest, hgap, rfl, hread, hlast⟩ := ih hlater
        refine ⟨c :: gap, rest, List.forall_mem_cons.2 ⟨Bool.eq_false_iff.2 hc, hgap⟩, rfl, hread,
          fun gap' rest' hgap' hsplit hlonger => ?_⟩
        obtain ⟨g, gap', rfl⟩ := List.exists_cons_of_length_pos (Nat.zero_lt_of_lt hlonger)
        obtain ⟨rfl, hrest⟩ := List.cons.inj hsplit
        exact hlast gap' rest' (List.forall_mem_cons.1 hgap').2 hrest (Nat.lt_of_succ_lt_succ hlonger)
      | none =>
        rw [hlater, Option.none_or] at h
        refine ⟨[], c :: text, by simp, rfl, h, fun gap' rest' hgap' hsplit hlonger => ?_⟩
        obtain ⟨g, gap', rfl⟩ := List.exists_cons_of_length_pos hlonger
        obtain ⟨rfl, hrest⟩ := List.cons.inj hsplit
        exact lastBefore?_eq_none hlater (List.forall_mem_cons.1 hgap').2 hrest

/-- No lead of the language goes further than one that begins behind its start. -/
def Ordered (L : Language Char) : Prop :=
  ∀ {skipped lead rest lead' rest'}, skipped ≠ [] → lead ∈ L → lead' ∈ L →
    skipped ++ (lead ++ rest) = lead' ++ rest' → lead'.length ≤ skipped.length + lead.length

/-- The last of the leads behind any number of characters is the longest with them, if those of the
language are in order. -/
theorem Finds.afterMany {ends : Char → Bool} {kind : Char → Prop} (h : Finds read? L)
    (hordered : Ordered L) (hkind : ∀ c, kind c ↔ ends c = false) :
    Finds (lastBefore? ends read?) (manyOf kind * L) where
  sound {text name} hread := by
    obtain ⟨gap, rest, hgap, rfl, hrest, hlast⟩ := lastBefore?_eq_some hread
    obtain ⟨lead, after, hstands, hlongest⟩ := h.sound hrest
    have hmany : gap ∈ manyOf kind := fun c hc => (hkind c).2 (hgap c hc)
    refine ⟨gap ++ lead, after, ⟨Language.mem_mul.2 ⟨gap, hmany, lead, hstands.mem, rfl⟩,
      hstands.token, by rw [hstands.split, List.append_assoc]⟩, fun {lead' name' after'} hother => ?_⟩
    obtain ⟨gap', hgap', lead', hlead', rfl⟩ := Language.mem_mul.1 hother.mem
    have hsplit := hother.split
    rw [List.append_assoc] at hsplit
    rw [List.length_append, List.length_append]
    rcases List.append_eq_append_iff.1 hsplit with ⟨skipped, rfl, hskipped⟩ | ⟨skipped, rfl, hskipped⟩
    · -- the other lead begins at the same place or later, and the reader has tried it
      have hother' : Stands L (lead' ++ (name' ++ after')) lead' name' after' :=
        ⟨hlead', hother.token, rfl⟩
      by_cases hempty : skipped = []
      · subst hempty
        rw [List.nil_append] at hskipped
        have hle := hlongest (hskipped ▸ hother')
        simpa using hle
      · have hnone := hlast _ _ (fun c hc => (hkind c).1 (hgap' c hc)) hsplit
          (by simpa using List.length_pos_of_ne_nil hempty)
        exact absurd hnone (h.complete hother')
    · -- the other lead begins earlier
      by_cases hempty : skipped = []
      · subst hempty
        rw [List.nil_append] at hskipped
        have hle := hlongest ⟨hlead', hother.token, hskipped.symm⟩
        simpa using hle
      · rw [hstands.split] at hskipped
        have hle := hordered hempty hstands.mem hlead' hskipped.symm
        rw [List.length_append]
        omega
  complete {text lead name after} hstands hnone := by
    obtain ⟨gap, hgap, lead, hlead, rfl⟩ := Language.mem_mul.1 hstands.mem
    exact h.complete ⟨hlead, hstands.token, rfl⟩ (lastBefore?_eq_none hnone
      (fun c hc => (hkind c).1 (hgap c hc)) (by rw [hstands.split, List.append_assoc]))

/-! ## The two forms -/

theorem isBlank_of_isNameChar {c : Char} (h : isNameChar c = true) :
    isBlank c = false ∧ isMark c = false := by
  simp only [isNameChar, Bool.not_eq_true', Bool.or_eq_false_iff] at h
  exact h.1.1

theorem IsToken.exists_cons {name after : List Char} (h : IsToken name after) :
    ∃ c rest, name = c :: rest ∧ isBlank c = false ∧ isMark c = false := by
  obtain ⟨c, rest, rfl⟩ := List.exists_cons_of_ne_nil h.ne_nil
  exact ⟨c, rest, rfl, isBlank_of_isNameChar (h.within c List.mem_cons_self)⟩

theorem Stands.blanks {text lead name after : List Char}
    (h : Stands (manyOf (isBlank ·)) text lead name after) :
    text.takeWhile isBlank = lead ∧ text.dropWhile isBlank = name ++ after := by
  obtain ⟨c, rest, hname, hc, -⟩ := h.token.exists_cons
  have hstop : ¬isBlank c = true := Bool.eq_false_iff.1 hc
  rw [h.split, List.takeWhile_append_of_pos h.mem, List.dropWhile_append_of_pos h.mem, hname,
    List.cons_append, List.takeWhile_cons_of_neg hstop, List.dropWhile_cons_of_neg hstop]
  exact ⟨List.append_nil lead, rfl⟩

theorem finds_afterBlanks :
    Finds (fun text => readName? (text.dropWhile isBlank)) (manyOf (isBlank ·)) where
  sound {text name} hread := by
    obtain ⟨lead, after, hstands, -⟩ := finds_readName?.sound hread
    have hsplit := hstands.split
    rw [(Language.mem_one _).1 hstands.mem, List.nil_append] at hsplit
    refine ⟨text.takeWhile isBlank, after, ⟨fun c hc => List.mem_takeWhile_imp hc, hstands.token, ?_⟩,
      fun hother => by rw [hother.blanks.1]⟩
    rw [← hsplit, List.takeWhile_append_dropWhile]
  complete {text lead name after} hstands := by
    rw [hstands.blanks.2]
    exact finds_readName?.complete ⟨(Language.mem_one _).2 rfl, hstands.token, rfl⟩

/-- A mark may be in front of the leads, if no text that one of them stands in begins with a mark. -/
theorem Finds.afterOptional (h : Finds read? L)
    (hfree : ∀ {text lead name after}, Stands L text lead name after → ¬text.head?.any isMark = true) :
    Finds (fun text => read? (if text.head?.any isMark then text.drop 1 else text))
      ((1 + oneOf (isMark ·)) * L) where
  sound {text name} hread := by
    by_cases hmark : text.head?.any isMark = true
    · obtain ⟨c, rest, rfl, hc⟩ : ∃ c rest, text = c :: rest ∧ isMark c = true := by
        cases text <;> simp_all
      rw [if_pos hmark, List.drop_one, List.tail_cons] at hread
      obtain ⟨lead, after, hstands, hlongest⟩ := h.sound hread
      refine ⟨[c] ++ lead, after, ⟨Language.mem_mul.2 ⟨[c], .inr ⟨c, hc, rfl⟩, lead, hstands.mem, rfl⟩,
        hstands.token, by rw [hstands.split]; rfl⟩, fun {lead' name' after'} hother => ?_⟩
      obtain ⟨mark, hfirst, lead', hlead', rfl⟩ := Language.mem_mul.1 hother.mem
      rcases hfirst with hnone | ⟨d, -, rfl⟩
      · rw [(Language.mem_one _).1 hnone] at hother
        exact absurd hmark (hfree ⟨hlead', hother.token, hother.split⟩)
      · obtain ⟨rfl, hrest⟩ := List.cons.inj hother.split
        exact Nat.succ_le_succ (hlongest ⟨hlead', hother.token, hrest⟩)
    · rw [if_neg hmark] at hread
      obtain ⟨lead, after, hstands, hlongest⟩ := h.sound hread
      refine ⟨[] ++ lead, after, ⟨Language.mem_mul.2 ⟨[], .inl ((Language.mem_one _).2 rfl), lead,
        hstands.mem, rfl⟩, hstands.token, hstands.split⟩, fun {lead' name' after'} hother => ?_⟩
      obtain ⟨mark, hfirst, lead', hlead', rfl⟩ := Language.mem_mul.1 hother.mem
      rcases hfirst with hnone | ⟨d, hd, rfl⟩
      · rw [(Language.mem_one _).1 hnone] at hother ⊢
        exact hlongest ⟨hlead', hother.token, hother.split⟩
      · rw [hother.split] at hmark
        exact absurd hd hmark
  complete {text lead name after} hstands := by
    obtain ⟨mark, hfirst, lead, hlead, rfl⟩ := Language.mem_mul.1 hstands.mem
    rcases hfirst with hnone | ⟨d, hd, rfl⟩
    · rw [(Language.mem_one _).1 hnone] at hstands
      have hsame : Stands L text lead name after := ⟨hlead, hstands.token, hstands.split⟩
      rw [if_neg (hfree hsame)]
      exact h.complete hsame
    · rw [hstands.split, if_pos (by exact hd)]
      exact h.complete ⟨hlead, hstands.token, rfl⟩

/-- Leads go on behind one character of a kind. -/
theorem Finds.afterOne {kind : Char → Prop} (h : Finds read? L)
    (houter : ∀ text name, outer? text = some name ↔
      ∃ c rest, kind c ∧ text = c :: rest ∧ read? rest = some name) :
    Finds outer? (oneOf kind * L) := by
  refine h.after (fun first => length_of_mem_oneOf) fun text name => (houter text name).trans ?_
  constructor
  · rintro ⟨c, rest, hc, htext, hread⟩
    exact ⟨[c], ⟨c, hc, rfl⟩, rest, htext, hread⟩
  · rintro ⟨first, ⟨c, hc, rfl⟩, rest, htext, hread⟩
    exact ⟨c, rest, hc, htext, hread⟩

/-- Leads are in order if each has a character of a kind at one place and none behind it. -/
theorem ordered_of_place (place : Nat) (kind : Char → Prop)
    (hplace : ∀ lead ∈ L, ∃ c ∈ lead[place]?, kind c)
    (hbehind : ∀ lead ∈ L, ∀ i, place < i → ∀ c ∈ lead[i]?, ¬kind c) : Ordered L := by
  intro skipped lead rest lead' rest' hskipped hlead hlead' heq
  obtain ⟨c, hc, hkind⟩ := hplace lead hlead
  have hwithin : place < lead.length := (List.getElem?_eq_some_iff.1 hc).1
  by_contra hlonger
  have hshared : lead'[skipped.length + place]? = lead[place]? := by
    have hget := congrArg (·[skipped.length + place]?) heq
    rw [List.getElem?_append_right (by omega), List.getElem?_append_left (by omega),
      List.getElem?_append_left (by omega), Nat.add_sub_cancel_left] at hget
    exact hget.symm
  have hskip := List.length_pos_of_ne_nil hskipped
  exact hbehind lead' hlead' _ (by omega) c (hshared ▸ hc) hkind

theorem ordered_spelled (word : String) : Ordered (spelled word) := by
  intro skipped lead rest lead' rest' _ hlead hlead' _
  rw [length_of_mem_spelled hlead, length_of_mem_spelled hlead']
  omega

/-- What is no letter is the same in every letter case. -/
theorem getElem?_of_mem_spelled {word : String} {text : List Char} (h : text ∈ spelled word)
    {i : Nat} {d : Char} (hd : word.toList[i]? = some d) (hletter : isSmallLetter d = false) :
    text[i]? = some d := by
  have hget : (asciiLower text)[i]? = some d := by
    rw [h, hd]
  rw [asciiLower, List.getElem?_map] at hget
  obtain ⟨c, hc, hlower⟩ := Option.map_eq_some_iff.1 hget
  rw [hc, eq_of_asciiLowerChar hletter hlower]

theorem isAscii_of_isMark {c : Char} (h : isMark c = true) : isAscii c = true := by
  simp only [isMark, Bool.or_eq_true, decide_eq_true_eq] at h
  rcases h with rfl | h
  · decide
  · rw [isAscii, h]
    decide

theorem ordered_own : Ordered Form.own.opening := by
  refine ordered_of_place 7 (· = '=') (fun lead hlead => ?_)
    fun lead hlead i hi c hc => ?_
  · obtain ⟨word, hword, rest, -, rfl⟩ := Language.mem_mul.1 hlead
    have hlength : word.length = 8 := length_of_mem_spelled hword
    refine ⟨'=', ?_, rfl⟩
    rw [Option.mem_def, List.getElem?_append_left (by omega)]
    exact getElem?_of_mem_spelled hword (by decide) (by decide)
  · obtain ⟨word, hword, rest, hrest, rfl⟩ := Language.mem_mul.1 hlead
    obtain ⟨mark, hmark, blanks, hblanks, rfl⟩ := Language.mem_mul.1 hrest
    have hlength : word.length = 8 := length_of_mem_spelled hword
    rw [Option.mem_def, List.getElem?_append_right (by omega)] at hc
    rintro rfl
    rcases List.mem_append.1 (List.mem_of_getElem? hc) with hc | hc
    · rcases hmark with hnone | ⟨d, hd, rfl⟩
      · rw [(Language.mem_one _).1 hnone] at hc
        cases hc
      · rw [← List.mem_singleton.1 hc] at hd
        exact absurd hd (by decide)
    · exact absurd (hblanks _ hc) (by decide)

theorem ordered_contentType : Ordered Form.contentType.opening := by
  refine ordered_of_place 8 (isMark ·) (fun lead hlead => ?_)
    fun lead hlead i hi c hc hmark => ?_
  · obtain ⟨word, hword, rest, hrest, rfl⟩ := Language.mem_mul.1 hlead
    obtain ⟨mark, ⟨c, hc, rfl⟩, rest, -, rfl⟩ := Language.mem_mul.1 hrest
    have hlength : word.length = 8 := length_of_mem_spelled hword
    refine ⟨c, ?_, hc⟩
    rw [Option.mem_def, List.getElem?_append_right (by omega), hlength]
    rfl
  · obtain ⟨word, hword, rest, hrest, rfl⟩ := Language.mem_mul.1 hlead
    obtain ⟨mark, ⟨d, -, rfl⟩, behind, hbehind, rfl⟩ := Language.mem_mul.1 hrest
    obtain ⟨inner, hinner, last, hlast, rfl⟩ := Language.mem_mul.1 hbehind
    have hlength : word.length = 8 := length_of_mem_spelled hword
    rw [Option.mem_def, List.getElem?_append_right (by omega),
      List.getElem?_append_right (by simp; omega)] at hc
    rcases List.mem_append.1 (List.mem_of_getElem? hc) with hc | hc
    · exact hinner c hc hmark
    · have hmem : asciiLowerChar c ∈ asciiLower last := List.mem_map_of_mem hc
      rw [hlast] at hmem
      exact forall_ascii (P := fun c => isMark c = true → asciiLowerChar c ∉ "charset=".toList)
        (by decide) (isAscii_of_isMark hmark) hmark hmem

/-- Leads of declarations begin with a tag. -/
theorem Finds.inMeta (h : Finds read? L) (hordered : Ordered L) :
    Finds (readMeta? read?)
      (spelled "<meta" * (oneOf (· ≠ '>') * (manyOf (· ≠ '>') * L))) := by
  have hgap : Finds (lastBefore? (· = '>') read?) (manyOf (· ≠ '>') * L) :=
    h.afterMany hordered fun c => decide_eq_false_iff_not.symm
  refine (hgap.afterOne fun text name => ?_).afterWord "<meta"
  cases text with
  | nil => simp
  | cons c rest => by_cases hc : c = '>' <;> simp [hc]

/-- The reader of a form. -/
def Form.written? : Form → List Char → Option (List Char)
  | own => readMeta? readAttribute?
  | contentType => readMeta? readContentType?

theorem finds_written? (form : Form) : Finds form.written? form.lead := by
  cases form with
  | own =>
    have hafter := finds_afterBlanks.afterOptional fun {text lead name after} hstands => by
      obtain ⟨c, rest, rfl, -, hc⟩ := hstands.token.exists_cons
      rw [hstands.split]
      cases lead with
      | nil => simp [hc]
      | cons d lead =>
        have hblank : isBlank d = true := hstands.mem d List.mem_cons_self
        have hmark : isMark d = false := by
          by_contra hmark
          rw [Bool.not_eq_false] at hmark
          have := forall_ascii (P := fun c => isMark c = true → isBlank c = false) (by decide)
            (isAscii_of_isMark hmark) hmark
          rw [hblank] at this
          cases this
        simp [hmark]
    exact (hafter.afterWord "charset=").inMeta ordered_own
  | contentType =>
    have hname : Finds (fun text => (dropWord? "charset=" text).bind readName?) (spelled "charset=") :=
      mul_one (spelled "charset=") ▸ finds_readName?.afterWord "charset="
    have hinner : Finds (lastBefore? isMark fun text => (dropWord? "charset=" text).bind readName?)
        (manyOf (¬isMark ·) * spelled "charset=") :=
      hname.afterMany (ordered_spelled _) fun c => Bool.eq_false_iff.symm
    have hmark : Finds (fun rest => if rest.head?.any isMark then
        lastBefore? isMark (fun text => (dropWord? "charset=" text).bind readName?) (rest.drop 1)
        else none) (oneOf (isMark ·) * (manyOf (¬isMark ·) * spelled "charset=")) := by
      refine hinner.afterOne fun text name => ?_
      cases text with
      | nil => simp
      | cons c rest => by_cases hc : isMark c = true <;> simp [hc]
    exact (hmark.afterWord "content=").inMeta ordered_contentType

end PageBlocks.Charset
