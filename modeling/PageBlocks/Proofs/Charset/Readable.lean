import Mathlib.Data.List.TakeWhile
import PageBlocks.Charset.Basic
import PageBlocks.Proofs.Charset.Runs
/-!
# Which pages can be read

Bytes are replaced where they cannot be read, so that hardly anything but the name of the character set
keeps a page from being read.  The name has to be one of a text encoding that is known; only two sets
ask for more of the bytes.

## Main results

* `Punycode.exists_decode_iff` — which bytes can be read before and as numbers.
* `CharacterSet.exists_decode_iff` — which bytes can be read in a set.
* `exists_decodePage_iff` — which pages can be read.
* `decodePage_fails` — not all pages can.
* `decodePage_standard` — pages in the standard set, as those without a declaration are, always can.
-/

namespace PageBlocks

/-! ## Numbers after the text -/

namespace Charset.Punycode

/-- All bytes but the basic ones have a hyphen somewhere behind them. -/
def HasHyphens (bytes : List UInt8) : Prop :=
  ∀ before byte after, bytes = before ++ byte :: after → isBasic byte = false → 0x2D ∈ after

theorem firstHigh?_eq_none_iff {bytes : List UInt8} :
    firstHigh? bytes = none ↔ ∀ byte ∈ bytes, isBasic byte = true := by
  rw [firstHigh?, Option.map_eq_none_iff, List.getElem?_eq_none_iff]
  constructor
  · intro h
    have hall : bytes.takeWhile isBasic = bytes := (List.takeWhile_prefix _).eq_of_length_le h
    exact List.takeWhile_eq_self_iff.1 hall
  · intro h
    rw [List.takeWhile_eq_self_iff.2 h]

/-- An entry is at the start of a list that fits just when it and all in front of it do. -/
theorem mem_takeWhile_iff {α : Type} {p : α → Bool} {items : List α} {item : α} :
    item ∈ items.takeWhile p ↔
      ∃ before after, items = before ++ item :: after ∧ ∀ x ∈ item :: before, p x = true := by
  constructor
  · intro hmem
    obtain ⟨before, after, hsplit⟩ := List.append_of_mem hmem
    obtain ⟨tail, htail⟩ := List.takeWhile_prefix p (l := items)
    refine ⟨before, after ++ tail, ?_, fun x hx => List.mem_takeWhile_imp (l := items) ?_⟩
    · rw [← htail, hsplit, List.append_assoc, List.cons_append]
    · rw [hsplit]
      rcases List.mem_cons.1 hx with rfl | hx
      · exact List.mem_append_right _ List.mem_cons_self
      · exact List.mem_append_left _ hx
  · rintro ⟨before, after, rfl, hall⟩
    obtain ⟨hitem, hbefore⟩ := List.forall_mem_cons.1 hall
    rw [List.takeWhile_append_of_pos hbefore, List.takeWhile_cons_of_pos hitem]
    exact List.mem_append_right _ List.mem_cons_self

/-- The bytes that tell numbers are those with no hyphen at their place or behind it. -/
theorem mem_split {bytes : List UInt8} {byte : UInt8} :
    byte ∈ (split bytes).2 ↔
      ∃ before after, bytes = before ++ byte :: after ∧ 0x2D ∉ byte :: after := by
  rw [split, List.mem_reverse, mem_takeWhile_iff]
  constructor
  · rintro ⟨behind, front, hbytes, hall⟩
    refine ⟨front.reverse, behind.reverse, ?_, fun hhyphen => ?_⟩
    · rw [← List.reverse_inj, hbytes]
      simp
    · simpa using hall 0x2D (by simpa using hhyphen)
  · rintro ⟨front, behind, rfl, hhyphen⟩
    refine ⟨behind.reverse, front.reverse, by simp, fun x hx => decide_eq_true ?_⟩
    rintro rfl
    exact hhyphen (by simpa using hx)

/-- The text can be told just when all bytes but the basic ones have a hyphen behind them. -/
theorem exists_decode_iff (bytes : List UInt8) :
    (∃ text, decode bytes = .ok text) ↔ HasHyphens bytes := by
  have hnone : (∃ text, decode bytes = .ok text) ↔ firstHigh? (split bytes).2 = none := by
    rw [decode]
    dsimp only
    cases firstHigh? (split bytes).2 <;> simp
  rw [hnone, firstHigh?_eq_none_iff]
  constructor
  · intro hbasic before byte after hbytes hhigh
    by_contra hhyphen
    have hne : byte ≠ 0x2D := by
      rintro rfl
      exact absurd hhigh (by decide)
    have hmem : byte ∈ (split bytes).2 :=
      mem_split.2 ⟨before, after, hbytes, by simp [hne.symm, hhyphen]⟩
    rw [hbasic byte hmem] at hhigh
    cases hhigh
  · intro hhyphens byte hmem
    obtain ⟨before, after, hbytes, hnot⟩ := mem_split.1 hmem
    by_contra hhigh
    exact hnot (List.mem_cons_of_mem _
      (hhyphens before byte after hbytes (Bool.eq_false_iff.2 hhigh)))

end Charset.Punycode

/-! ## Sets -/

namespace CharacterSet

/-- What a set asks of bytes that are to be read in it. -/
def Reads : CharacterSet → List UInt8 → Prop
  | escaped set, bytes => ¬ set.LosesState bytes
  | punycode, bytes => Charset.Punycode.HasHyphens bytes
  | machineNames, _ | undefined, _ => False
  | _, _ => True

theorem exists_ofReader_iff {found : Option (List Char)} :
    (∃ text, decode.ofReader found = .ok text) ↔ found ≠ none := by
  cases found <;> simp [decode.ofReader]

/-- What a reader that never breaks down has found is a text. -/
theorem exists_ofReader_steady {σ : Type} (start : σ)
    (piece : σ → UInt8 → List UInt8 → Charset.Piece σ) (ending : σ → List Char)
    (bytes : List UInt8) :
    ∃ text, decode.ofReader ((Charset.Reader.steady start piece ending).decode bytes) = .ok text := by
  obtain ⟨text, htext⟩ := Charset.Reader.exists_decode_steady start piece ending bytes
  exact ⟨text, by rw [htext, decode.ofReader]⟩

/-- Bytes can be read in a set just when they are what it asks for. -/
theorem exists_decode_iff (set : CharacterSet) (bytes : List UInt8) :
    (∃ text, set.decode bytes = .ok text) ↔ set.Reads bytes := by
  cases set with
  | utf8 => exact iff_of_true ⟨_, rfl⟩ trivial
  | markedUtf8 =>
    refine iff_of_true ?_ trivial
    unfold decode
    dsimp only
    split <;> exact ⟨_, rfl⟩
  | pairs order => cases order <;> exact iff_of_true ⟨_, rfl⟩ trivial
  | fours order => cases order <;> exact iff_of_true ⟨_, rfl⟩ trivial
  | singleByte characters => exact iff_of_true ⟨_, rfl⟩ trivial
  | eastAsian set => exact iff_of_true ⟨_, rfl⟩ trivial
  | planes set => exact iff_of_true (exists_ofReader_steady _ _ _ bytes) trivial
  | tilde => exact iff_of_true (exists_ofReader_steady _ _ _ bytes) trivial
  | base64 => exact iff_of_true (exists_ofReader_steady _ _ _ bytes) trivial
  | backslash onlyCodes => exact iff_of_true (exists_ofReader_steady _ _ _ bytes) trivial
  | escaped set =>
    rw [decode, exists_ofReader_iff]
    exact not_congr (set.decode_eq_none_iff bytes)
  | punycode =>
    rw [Reads, ← Charset.Punycode.exists_decode_iff, decode]
    cases Charset.Punycode.decode bytes <;> simp
  | machineNames => exact iff_of_false (by rintro ⟨text, h⟩; cases h) id
  | undefined => exact iff_of_false (by rintro ⟨text, h⟩; cases h) id

end CharacterSet

namespace Charset

/-! ## Names -/

/-- The usual names of the text encodings whose bytes can be replaced: those that are no tables of
single bytes, and those that are. -/
def textEncodings : List String :=
  ["utf_8", "utf_8_sig", "utf_16", "utf_16_be", "utf_16_le", "utf_32", "utf_32_be", "utf_32_le",
    "shift_jis", "cp932", "euc_jp", "gb2312", "gbk", "gb18030", "big5", "cp950", "euc_kr", "cp949",
    "johab", "euc_jis_2004", "euc_jisx0213", "shift_jis_2004", "shift_jisx0213", "big5hkscs",
    "iso2022_jp", "iso2022_jp_1", "iso2022_jp_2", "iso2022_jp_3", "iso2022_jp_2004",
    "iso2022_jp_ext", "iso2022_kr", "hz", "utf_7", "unicode_escape", "raw_unicode_escape",
    "punycode"] ++
  ["ascii", "charmap", "cp037", "cp1006", "cp1026", "cp1125", "cp1140", "cp1250", "cp1251",
    "cp1252", "cp1253", "cp1254", "cp1255", "cp1256", "cp1257", "cp1258", "cp273", "cp424",
    "cp437", "cp500", "cp720", "cp737", "cp775", "cp850", "cp852", "cp855", "cp856", "cp857",
    "cp858", "cp860", "cp861", "cp862", "cp863", "cp864", "cp865", "cp866", "cp869", "cp874",
    "cp875", "hp_roman8", "iso8859_1", "iso8859_10", "iso8859_11", "iso8859_13", "iso8859_14",
    "iso8859_15", "iso8859_16", "iso8859_2", "iso8859_3", "iso8859_4", "iso8859_5", "iso8859_6",
    "iso8859_7", "iso8859_8", "iso8859_9", "koi8_r", "koi8_t", "koi8_u", "kz1048", "latin_1",
    "mac_arabic", "mac_croatian", "mac_cyrillic", "mac_farsi", "mac_greek", "mac_iceland",
    "mac_latin2", "mac_roman", "mac_romanian", "mac_turkish", "palmos", "ptcp154", "tis_620"]

/-- What is asked of a page that is to be read in the set with a name. -/
structure Readable (name : String) (bytes : List UInt8) : Prop where
  noNull : Char.ofNat 0 ∉ name.toList
  known : usualName name ∈ textEncodings
  hyphens : usualName name = "punycode" → Punycode.HasHyphens bytes
  state : usualName name = "iso2022_jp_2" → ¬ Escaped.LosesState .japanese2 bytes

section Tables

open CharacterSet

theorem mem_of_lookup {usual : String} {set : CharacterSet}
    (h : computed.lookup usual = some set) : (usual, set) ∈ computed := by
  obtain ⟨before, after, hsplit, -⟩ := List.lookup_eq_some_iff.1 h
  rw [hsplit]
  exact List.mem_append_right _ List.mem_cons_self

/-- No two entries have one name. -/
theorem lookup_of_mem {usual : String} {set : CharacterSet} (h : (usual, set) ∈ computed) :
    computed.lookup usual = some set := by
  have hall : ∀ entry ∈ computed, computed.lookup entry.1 = some entry.2 := by decide +kernel
  exact hall (usual, set) h

theorem lookup_inj {usual : String} {set other : CharacterSet} (h : (usual, set) ∈ computed)
    (hother : (usual, other) ∈ computed) : set = other :=
  Option.some.inj ((lookup_of_mem h).symm.trans (lookup_of_mem hother))

/-- No set is in both tables. -/
theorem characters?_of_mem {entry : String × CharacterSet} (h : entry ∈ computed) :
    SingleByte.characters? entry.1 = none := by
  have hnone : ∀ entry ∈ computed, SingleByte.source.lookup entry.1 = none := by decide +kernel
  exact SingleByte.characters?_unknown (hnone entry h)

/-- A set has a name just when one of the two tables has it under the usual form of that name. -/
theorem ofName_eq_ok_iff {name : String} {set : CharacterSet} :
    ofName name = .ok set ↔
      Char.ofNat 0 ∉ name.toList ∧ ((usualName name, set) ∈ computed ∨
        ∃ characters, SingleByte.characters? (usualName name) = some characters ∧
          singleByte characters = set) := by
  rw [ofName]
  split
  · next hnull => exact iff_of_false (by rintro ⟨⟩) fun h => h.1 (List.contains_iff_mem.1 hnull)
  · next hnull =>
    have hfree : Char.ofNat 0 ∉ name.toList := fun hmem => hnull (List.contains_iff_mem.2 hmem)
    rw [and_iff_right hfree]
    cases hfound : computed.lookup (usualName name) with
    | some found =>
      have hmem := mem_of_lookup hfound
      rw [Option.some_or, characters?_of_mem hmem]
      constructor
      · rintro ⟨⟩
        exact .inl hmem
      · rintro (hset | ⟨characters, ⟨⟩, -⟩)
        rw [lookup_inj hmem hset]
    | none =>
      rw [Option.none_or]
      constructor
      · cases SingleByte.characters? (usualName name) with
        | none => rintro ⟨⟩
        | some characters =>
          rintro ⟨⟩
          exact .inr ⟨characters, rfl, rfl⟩
      · rintro (hset | ⟨characters, hcharacters, rfl⟩)
        · cases hfound.symm.trans (lookup_of_mem hset)
        · rw [hcharacters, Option.map_some]

/-- The sets of the tables that can be read are the text encodings. -/
theorem mem_textEncodings {usual : String} :
    usual ∈ textEncodings ↔
      (∃ characters, SingleByte.characters? usual = some characters) ∨
        ∃ set, (usual, set) ∈ computed ∧ set ≠ machineNames ∧ set ≠ undefined := by
  have hlist : textEncodings =
      (computed.filter fun entry => entry.2 ≠ machineNames ∧ entry.2 ≠ undefined).map Prod.fst ++
        SingleByte.source.map Prod.fst := by
    decide +kernel
  have hcharacters : usual ∈ SingleByte.source.map Prod.fst ↔
      ∃ characters, SingleByte.characters? usual = some characters := by
    rw [← Option.isSome_iff_exists, SingleByte.characters?, Option.isSome_map,
      List.lookup_isSome_iff, List.mem_map]
    exact exists_congr fun entry => and_congr_right fun _ => eq_comm.trans beq_iff_eq.symm
  rw [hlist, List.mem_append, hcharacters, or_comm]
  simp [List.mem_filter]

/-- The two sets that ask something of bytes have one name each. -/
theorem name_of_asking : ∀ entry ∈ computed,
    (entry.2 = punycode → entry.1 = "punycode") ∧
      (entry.2 = escaped .japanese2 → entry.1 = "iso2022_jp_2") := by
  decide +kernel

end Tables

/-- Bytes can be read in the set with a name just when there is a set with that name that reads them. -/
theorem exists_decodeNamed_iff_reads (name : String) (bytes : List UInt8) :
    (∃ text, decodeNamed name bytes = .ok text) ↔
      ∃ set, ofName name = .ok set ∧ set.Reads bytes := by
  simp only [← CharacterSet.exists_decode_iff]
  rw [decodeNamed]
  cases ofName name with
  | error fault => simp
  | ok set =>
    simp only [Except.ok.injEq, exists_eq_left']
    cases set.decode bytes <;> simp

/-- Bytes can be read in the set with a name just when the name is known and the bytes are what the set
asks for. -/
theorem exists_decodeNamed_iff (name : String) (bytes : List UInt8) :
    (∃ text, decodeNamed name bytes = .ok text) ↔ Readable name bytes := by
  have hpunycode : ("punycode", CharacterSet.punycode) ∈ CharacterSet.computed := by decide +kernel
  have hescaped : ("iso2022_jp_2", CharacterSet.escaped .japanese2) ∈ CharacterSet.computed := by
    decide +kernel
  rw [exists_decodeNamed_iff_reads]
  simp only [ofName_eq_ok_iff]
  constructor
  · rintro ⟨set, ⟨hnull, hmem | ⟨characters, hcharacters, rfl⟩⟩, hreads⟩
    · have hread : set ≠ .machineNames ∧ set ≠ .undefined := by
        constructor <;> rintro rfl <;> exact hreads
      refine ⟨hnull, mem_textEncodings.2 (.inr ⟨set, hmem, hread⟩), fun hname => ?_, fun hname => ?_⟩
      · rw [hname] at hmem
        rw [lookup_inj hmem hpunycode] at hreads
        exact hreads
      · rw [hname] at hmem
        rw [lookup_inj hmem hescaped] at hreads
        exact hreads
    · have hapart (entry) (hentry : entry ∈ CharacterSet.computed) : usualName name ≠ entry.1 := by
        intro hname
        rw [hname, characters?_of_mem hentry] at hcharacters
        cases hcharacters
      exact ⟨hnull, mem_textEncodings.2 (.inl ⟨characters, hcharacters⟩),
        fun hname => absurd hname (hapart _ hpunycode),
        fun hname => absurd hname (hapart _ hescaped)⟩
  · rintro ⟨hnull, hknown, hhyphens, hstate⟩
    obtain ⟨characters, hcharacters⟩ | ⟨set, hmem, hmachine, hundefined⟩ :=
      mem_textEncodings.1 hknown
    · exact ⟨.singleByte characters, ⟨hnull, .inr ⟨characters, hcharacters, rfl⟩⟩, trivial⟩
    · refine ⟨set, ⟨hnull, .inl hmem⟩, ?_⟩
      cases set with
      | punycode => exact hhyphens ((name_of_asking _ hmem).1 rfl)
      | escaped escaped =>
        intro hloses
        obtain rfl := Escaped.eq_of_hasThird hloses.1
        exact hstate ((name_of_asking _ hmem).2 rfl) hloses
      | machineNames => exact hmachine rfl
      | undefined => exact hundefined rfl
      | _ => trivial

/-- A page can be read just when it is readable under the name that it declares. -/
theorem exists_decodePage_iff (bytes : List UInt8) :
    (∃ text, decodePage bytes = .ok text) ↔ Readable (declared bytes) bytes :=
  exists_decodeNamed_iff (declared bytes) bytes

/-- Not all pages can be read: one that declares a set which stands for a larger one cannot, as the name
of the larger one is not known. -/
theorem decodePage_fails : ¬ ∀ bytes, ∃ text, decodePage bytes = .ok text := by
  intro h
  obtain ⟨text, htext⟩ := h (Text.Utf8.encode
    "<meta charset=\"iso-8859-11\"><main><p>Hi</p></main>".toList)
  have hfault : decodePage (Text.Utf8.encode
      "<meta charset=\"iso-8859-11\"><main><p>Hi</p></main>".toList) =
        .error (.unknown "windows-874") := by
    rfl
  rw [hfault] at htext
  cases htext

/-- A page that is in the standard set, as pages without a declaration are, can always be read. -/
theorem decodePage_standard {bytes : List UInt8} (h : declared bytes = standardName) :
    decodePage bytes = .ok (Text.Utf8.decode bytes) := by
  have hset : ofName standardName = .ok .utf8 :=
    ofName_eq_ok_iff.2 ⟨by decide +kernel, .inl (by decide +kernel)⟩
  rw [decodePage, h, decodeNamed, hset]
  rfl

/-- Of the names that stand for larger sets, one leads to a name that is not known. -/
theorem largerSets_known : ∀ entry ∈ largerSets,
    usualName entry.2 ∈ textEncodings ↔ entry.2 ≠ "windows-874" := by
  decide +kernel

end Charset

end PageBlocks
