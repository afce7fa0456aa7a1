import PageBlocks.Proofs.Html.Harmless
import PageBlocks.Sanitize.Writer
/-!
# Addresses that run no scripts

An address that is cleaned runs no script.  The check looks at the address with its escapes read;
but a scheme that is told apart from the rest of an address by nothing but blanks and control
characters stands in front of all escapes, and so it is seen as it is.

Some control characters are not taken for hiding a scheme.  Addresses that are written with escapes
hold none of them in the end; the others must have none.

## Main results

* `namesScript_of_front` — a scheme in front of an address is seen.
* `runsScript_cleanAddress` — an address without control characters of these kinds.
* `runsScript_escape_cleanAddress` — an address that is written with escapes.
-/

namespace PageBlocks

open Text

namespace Url

/-! ## Escapes behind the front of an address -/

theorem unescapeBytes_cons {c : Char} (h : c ≠ '%') (rest : List Char) :
    unescapeBytes (c :: rest) = c.toNat.toUInt8 :: unescapeBytes rest := by
  rw [unescapeBytes]
  intro _ _ _ heq
  exact absurd heq h

/-- The front of ASCII text is read as it is when it has no escapes. -/
theorem decode_unescapeBytes_append (front : List Char) (hascii : ∀ c ∈ front, isAscii c = true)
    (hpercent : '%' ∉ front) (rest : List Char) :
    Utf8.decode (unescapeBytes (front ++ rest)) = front ++ Utf8.decode (unescapeBytes rest) := by
  induction front with
  | nil => rfl
  | cons c front ih =>
    have hc : c.toNat < 128 := by simpa [isAscii] using hascii c List.mem_cons_self
    have hbyte : c.toNat.toUInt8.toNat = c.toNat := by
      simp only [Nat.toUInt8, UInt8.toNat_ofNat']
      omega
    rw [List.mem_cons, not_or] at hpercent
    rw [List.cons_append, unescapeBytes_cons (Ne.symm hpercent.1), Utf8.decode_ascii_cons, hbyte,
      Char.ofNat_toNat, ih (fun d hd => hascii d (List.mem_cons_of_mem _ hd)) hpercent.2]
    · rfl
    · rw [UInt8.lt_iff_toNat_lt, hbyte]
      exact hc

/-- What was read of the run of ASCII text stands in front, when it starts without escapes. -/
theorem exists_unescapeFrom_run (front : List Char) (hascii : ∀ c ∈ front, isAscii c = true)
    (hpercent : '%' ∉ front) (text : List Char) :
    ∀ run : List Char, ∃ tail, unescapeFrom (run ++ front.reverse) text = front ++ tail := by
  induction text with
  | nil =>
    intro run
    refine ⟨Utf8.decode (unescapeBytes run.reverse), ?_⟩
    rw [unescapeFrom, List.reverse_append, List.reverse_reverse]
    exact decode_unescapeBytes_append front hascii hpercent run.reverse
  | cons c rest ih =>
    intro run
    unfold unescapeFrom
    split
    · exact ih (c :: run)
    · rw [List.reverse_append, List.reverse_reverse,
        decode_unescapeBytes_append front hascii hpercent, List.append_assoc]
      exact ⟨_, rfl⟩

theorem exists_unescapeFrom {front : List Char} (hpercent : '%' ∉ front) (rest : List Char) :
    ∀ run : List Char, (∀ c ∈ run, isAscii c = true) → '%' ∉ run →
      ∃ tail, unescapeFrom run (front ++ rest) = run.reverse ++ front ++ tail := by
  induction front with
  | nil =>
    intro run hascii hrun
    obtain ⟨tail, htail⟩ := exists_unescapeFrom_run run.reverse
      (by simpa using hascii) (by simpa using hrun) rest []
    exact ⟨tail, by simpa using htail⟩
  | cons c front ih =>
    intro run hascii hrun
    rw [List.mem_cons, not_or] at hpercent
    rw [List.cons_append, unescapeFrom]
    split
    · next hc =>
      obtain ⟨tail, htail⟩ := ih hpercent.2 (c :: run)
        (by simpa [hc] using hascii) (by simp [hpercent.1, hrun])
      exact ⟨tail, by simpa using htail⟩
    · have hdecoded := decode_unescapeBytes_append run.reverse (by simpa using hascii)
        (by simpa using hrun) []
      obtain ⟨tail, htail⟩ := ih hpercent.2 [] (by simp) (by simp)
      refine ⟨tail, ?_⟩
      rw [List.append_nil] at hdecoded
      rw [hdecoded, htail]
      simp [unescapeBytes, Utf8.decode_nil]

/-- The front of an address is read as it is when it has no escapes and no plus signs. -/
theorem exists_unescapeQuery {front : List Char} (hpercent : '%' ∉ front) (hplus : '+' ∉ front)
    (rest : List Char) : ∃ tail, unescapeQuery (front ++ rest) = front ++ tail := by
  have hfront : front.map (fun c => if c = '+' then ' ' else c) = front := by
    rw [List.map_congr_left (g := id), List.map_id]
    intro c hc
    rw [if_neg]
    · rfl
    · rintro rfl
      exact hplus hc
  unfold unescapeQuery unescape
  rw [List.map_append, hfront]
  split
  · exact exists_unescapeFrom hpercent _ [] (by simp) (by simp)
  · exact ⟨_, rfl⟩

end Url

namespace Sanitize

/-! ## Schemes -/

theorem startsWith_append (lead rest : List Char) : startsWith lead (lead ++ rest) = true := by
  unfold startsWith
  rw [dropLeading?_eq_some_iff.2 rfl]
  rfl

theorem exists_of_startsWith {lead text : List Char} (h : startsWith lead text = true) :
    ∃ rest, text = lead ++ rest := by
  obtain ⟨rest, hrest⟩ := Option.isSome_iff_exists.1 h
  exact ⟨rest, dropLeading?_eq_some_iff.1 hrest⟩

/-- Image data names a scheme. -/
theorem countSchemes_pos_of_imageType? {text type : List Char} (h : imageType? text = some type) :
    0 < countSchemes text := by
  induction text with
  | nil => cases h
  | cons c rest ih =>
    unfold imageType? at h
    unfold countSchemes
    split at h
    · next found after hfound =>
      obtain ⟨behind, hbehind, _⟩ := Option.bind_eq_some_iff.1 hfound
      have htext := dropLeading?_eq_some_iff.1 hbehind
      have hdata : startsWith ("data".toList ++ [':']) (c :: rest) = true := by
        rw [htext]
        exact startsWith_append _ ("image/".toList ++ behind)
      have hany : (scriptSchemes.any fun scheme =>
          startsWith (scheme.toList ++ [':']) (c :: rest)) = true :=
        List.any_eq_true.2 ⟨"data", by decide, hdata⟩
      rw [if_pos hany]
      exact Nat.lt_add_right _ Nat.one_pos
    · exact Nat.lt_of_lt_of_le (ih h) (Nat.le_add_left _ _)

/-- A scheme that runs scripts is seen in front of an address, also when image data follows. -/
theorem namesScript_of_foldText {text rest : List Char} (h : foldText text = scriptStart ++ rest) :
    namesScript text = true := by
  obtain ⟨tail, htail⟩ : ∃ tail, scriptStart ++ rest = 'j' :: tail := ⟨_, rfl⟩
  have hcount : countSchemes (foldText text) = 1 + countSchemes tail := by
    have hscript : startsWith ("javascript".toList ++ [':']) ('j' :: tail) = true := by
      rw [← htail]
      exact startsWith_append scriptStart rest
    have hany : (scriptSchemes.any fun scheme =>
        startsWith (scheme.toList ++ [':']) ('j' :: tail)) = true :=
      List.any_eq_true.2 ⟨"javascript", by decide, hscript⟩
    rw [h, htail, countSchemes, if_pos hany]
  unfold namesScript
  dsimp only
  split
  · next type htype =>
    have himage : imageType? tail = some type := by
      rw [h, htail] at htype
      exact htype
    have hpos := countSchemes_pos_of_imageType? himage
    rw [hcount]
    simp only [Bool.or_eq_true, decide_eq_true_eq]
    right
    omega
  · rw [hcount]
    simp only [decide_eq_true_eq]
    omega

/-- A scheme in front of an address is seen when it is told apart from the rest by characters that
hide schemes. -/
theorem namesScript_of_front {front : List Char} (h : foldText (unhide front) = scriptStart)
    (rest : List Char) : namesScript (unhide (Url.unescapeQuery (front ++ rest))) = true := by
  have hnot : ∀ c : Char, hidesScheme c = false → foldChar c ∉ scriptStart → c ∉ front := by
    intro c hshown hfold hmem
    refine hfold ?_
    rw [← h]
    exact List.mem_map.2 ⟨c, List.mem_filter.2 ⟨hmem, by simp [hshown]⟩, rfl⟩
  obtain ⟨tail, htail⟩ := Url.exists_unescapeQuery (hnot '%' (by decide) (by decide))
    (hnot '+' (by decide) (by decide)) rest
  rw [htail]
  have hunhide : unhide (front ++ tail) = unhide front ++ unhide tail := List.filter_append _ _
  have hfold : foldText (unhide front ++ unhide tail) = scriptStart ++ foldText (unhide tail) := by
    rw [← h]
    exact List.map_append
  rw [hunhide]
  exact namesScript_of_foldText hfold

/-- No scheme that runs scripts is left in front of a clean address. -/
theorem cleanAddress_ne (address rest : List Char) {front : List Char}
    (h : foldText (unhide front) = scriptStart) : cleanAddress address ≠ front ++ rest := by
  intro heq
  unfold cleanAddress at heq
  dsimp only at heq
  split at heq
  · obtain ⟨rfl, -⟩ := List.append_eq_nil_iff.1 heq.symm
    exact absurd h (by decide)
  · next hnames =>
    refine hnames ?_
    rw [heq]
    exact namesScript_of_front h rest

/-! ## Clean addresses -/

/-- The front of an address that runs a script. -/
theorem exists_of_runsScript {address : List Char} (h : runsScript address = true) :
    ∃ front rest, address = front ++ rest ∧
      foldText (front.filter fun c => !isSkipped c) = scriptStart := by
  obtain ⟨rest, hrest⟩ := exists_of_startsWith h
  obtain ⟨shown, others, hshown, hfold, -⟩ := List.map_eq_append_iff.1 hrest
  obtain ⟨front, behind, rfl, rfl, -⟩ := List.filter_eq_append_iff.1 hshown
  exact ⟨front, behind, rfl, hfold⟩

theorem isSkipped_of_hidesScheme {c : Char} (h : hidesScheme c = true) : isSkipped c = true := by
  by_cases hblank : isBlank c = true
  · simp [isSkipped, hblank]
  · simp only [hidesScheme, isSkipped, isControl, hblank, Bool.false_or, Bool.or_eq_true,
      Bool.and_eq_true, decide_eq_true_eq] at h ⊢
    omega

theorem mem_of_mem_cleanAddress {address : List Char} {c : Char} (h : c ∈ cleanAddress address) :
    c ∈ address := by
  unfold cleanAddress at h
  dsimp only at h
  split at h
  · cases h
  · have hleft : c ∈ trimLeft address :=
      List.mem_reverse.1 (List.dropWhile_subset _ (List.mem_reverse.1 h))
    exact List.dropWhile_subset _ hleft

/-- A clean address runs no script when all its control characters are taken for hiding schemes. -/
theorem runsScript_cleanAddress {address : List Char}
    (h : ∀ c ∈ address, isControl c = true → hidesScheme c = true) :
    runsScript (cleanAddress address) = false := by
  rw [Bool.eq_false_iff]
  intro hruns
  obtain ⟨front, rest, heq, hfold⟩ := exists_of_runsScript hruns
  have hsame : front.filter (fun c => !isSkipped c) = unhide front := by
    refine List.filter_congr fun c hc => ?_
    have hmem : c ∈ address := mem_of_mem_cleanAddress (heq ▸ List.mem_append_left _ hc)
    have hiff : isSkipped c = hidesScheme c := by
      rw [Bool.eq_iff_iff]
      refine ⟨fun hskipped => ?_, isSkipped_of_hidesScheme⟩
      rcases Bool.or_eq_true_iff.1 hskipped with hblank | hcontrol
      · simp [hidesScheme, hblank]
      · exact h c hmem hcontrol
    rw [hiff]
  rw [hsame] at hfold
  exact cleanAddress_ne address rest hfold heq

/-! ## Addresses that are written with escapes -/

/-- The front of an address that is written with escapes stands in front of the address when it has
no escapes. -/
theorem exists_of_escape {isAllowed : Char → Bool} {front rest : List Char}
    (hpercent : '%' ∉ front) {address : List Char}
    (h : Url.escape isAllowed address = front ++ rest) : ∃ behind, address = front ++ behind := by
  induction front generalizing address with
  | nil => exact ⟨address, rfl⟩
  | cons c front ih =>
    rw [List.mem_cons, not_or] at hpercent
    cases address with
    | nil => cases h
    | cons d others =>
      rw [Url.escape, List.flatMap_cons] at h
      split at h
      · obtain ⟨rfl, hothers⟩ := List.cons.inj h
        obtain ⟨behind, rfl⟩ := ih hpercent.2 hothers
        exact ⟨behind, rfl⟩
      · obtain ⟨byte, bytes, hbytes⟩ : ∃ byte bytes, Utf8.encodeChar d = byte :: bytes := by
          unfold Utf8.encodeChar
          dsimp only
          repeat' split
          all_goals exact ⟨_, _, rfl⟩
        rw [hbytes] at h
        exact absurd (List.cons.inj h).1 hpercent.1

/-- Characters of an address that are not escaped are visible ASCII characters. -/
theorem isVisible_of_isAddressChar {c : Char} (h : isAddressChar c = true) :
    0x21 ≤ c.toNat ∧ c.toNat ≤ 0x7E := by
  have hmarks : ("-_.!~*()\"#$%&+,/:;<=>?@[\\]^\x7b|\x7d".toList.all fun d =>
      0x21 ≤ d.toNat && d.toNat ≤ 0x7E) = true := by decide
  have hle : ∀ d e : Char, d ≤ e ↔ d.toNat ≤ e.toNat := fun d e => by
    rw [Char.le_def, UInt32.le_iff_toNat_le]
    rfl
  simp only [isAddressChar, isAsciiLetter, isAsciiDigit, hle, Bool.or_eq_true, Bool.and_eq_true,
    decide_eq_true_eq, List.contains_iff_mem, Char.reduceToNat] at h
  rcases h with ((((hletter | hletter) | hdigit) | hquote) | hgrave) | hmark
  · omega
  · omega
  · omega
  · omega
  · omega
  · simpa using List.all_eq_true.1 hmarks c hmark

theorem isSkipped_of_isVisible {c : Char} (h : 0x21 ≤ c.toNat ∧ c.toNat ≤ 0x7E) :
    isSkipped c = false := by
  rw [Bool.eq_false_iff]
  intro hskipped
  simp only [isSkipped, isBlank, isControl, Bool.or_eq_true, Bool.and_eq_true, beq_iff_eq,
    decide_eq_true_eq] at hskipped
  omega

/-- An address that is written with escapes has visible ASCII characters only. -/
theorem isVisible_of_mem_escape {address : List Char} {c : Char}
    (h : c ∈ Url.escape isAddressChar address) : 0x21 ≤ c.toNat ∧ c.toNat ≤ 0x7E := by
  have hcapital : ∀ n < 16, 0x21 ≤ (Url.hexCapital n).toNat ∧ (Url.hexCapital n).toNat ≤ 0x7E := by
    decide
  obtain ⟨d, -, hd⟩ := List.mem_flatMap.1 h
  split at hd
  · next hallowed =>
    rw [List.mem_singleton.1 hd]
    exact isVisible_of_isAddressChar hallowed
  · obtain ⟨byte, -, hbyte⟩ := List.mem_flatMap.1 hd
    have hlow := byte.toNat_lt
    simp only [Url.escapeByte, List.mem_cons, List.not_mem_nil, or_false] at hbyte
    rcases hbyte with rfl | rfl | rfl
    · decide
    · exact hcapital _ (by omega)
    · exact hcapital _ (by omega)

/-- Blanks in front hide nothing. -/
theorem unhide_blanks_append {blanks front : List Char}
    (hblanks : ∀ c ∈ blanks, isAddressBlank c = true)
    (hfront : ∀ c ∈ front, isSkipped c = false) : unhide (blanks ++ front) = front := by
  have hdropped : unhide blanks = [] := by
    refine List.filter_eq_nil_iff.2 fun c hc => ?_
    have hblank := hblanks c hc
    simp only [isAddressBlank, Bool.or_eq_true, decide_eq_true_eq] at hblank
    rcases hblank with ((rfl | rfl) | rfl) | rfl <;> decide
  have hshown : unhide front = front := by
    refine List.filter_eq_self.2 fun c hc => ?_
    cases hhides : hidesScheme c with
    | false => rfl
    | true => exact absurd (isSkipped_of_hidesScheme hhides) (by simp [hfront c hc])
  have happend : unhide (blanks ++ front) = unhide blanks ++ unhide front := List.filter_append _ _
  rw [happend, hdropped, hshown, List.nil_append]

/-- A clean address that is written with escapes runs no script. -/
theorem runsScript_escape_cleanAddress (address : List Char) :
    runsScript (Url.escape isAddressChar ((cleanAddress address).dropWhile isAddressBlank)) =
      false := by
  rw [Bool.eq_false_iff]
  intro hruns
  obtain ⟨front, rest, heq, hfold⟩ := exists_of_runsScript hruns
  have hvisible : ∀ c ∈ front, isSkipped c = false := fun c hc =>
    isSkipped_of_isVisible (isVisible_of_mem_escape (heq ▸ List.mem_append_left _ hc))
  have hfront : front.filter (fun c => !isSkipped c) = front :=
    List.filter_eq_self.2 fun c hc => by simp [hvisible c hc]
  rw [hfront] at hfold
  have hpercent : '%' ∉ front := by
    intro hmem
    have hscript : foldChar '%' ∈ scriptStart := hfold ▸ List.mem_map.2 ⟨'%', hmem, rfl⟩
    exact absurd hscript (by decide)
  obtain ⟨behind, hbehind⟩ := exists_of_escape hpercent heq
  -- the blanks that are dropped before the address is written hide nothing either
  have hblanks : unhide ((cleanAddress address).takeWhile isAddressBlank ++ front) = front :=
    unhide_blanks_append (List.all_eq_true.1 List.all_takeWhile) hvisible
  refine cleanAddress_ne address behind (hblanks.symm ▸ hfold) ?_
  rw [List.append_assoc, ← hbehind, List.takeWhile_append_dropWhile]

end Sanitize

end PageBlocks
