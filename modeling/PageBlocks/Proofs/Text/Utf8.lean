import PageBlocks.Text.Utf8
/-!
# Text that is written as bytes is read back

The bytes of a character are its first byte and continuation bytes with six bits each.  What the
first byte allows of the second one leaves out just the bytes of characters that are written
shorter, of halves of pairs and of numbers that are too large.

## Main results

* `Utf8.encodeChar_long` — the continuation bytes of a character complete it.
* `Utf8.decodeStrict_encode` — text that was written reads back.
-/

namespace PageBlocks.Text.Utf8

variable {state : State} {bytes rest : List UInt8} {c : Char}

/-! ## Continuation bytes -/

/-- The continuation byte with the given six bits. -/
def continuationByte (bits : Nat) : UInt8 := (0x80 + bits).toUInt8

theorem toNat_continuationByte {bits : Nat} (h : bits < 0x40) :
    (continuationByte bits).toNat = 0x80 + bits := by
  simp only [continuationByte, Nat.toUInt8, UInt8.toNat_ofNat']
  omega

theorem continuationByte_sub {bits : Nat} (h : bits < 0x40) :
    (continuationByte bits).toNat - 0x80 = bits := by
  rw [toNat_continuationByte h, Nat.add_sub_cancel_left]

theorem isBetween_continuationByte {bits : Nat} {least greatest : UInt8} (h : bits < 0x40)
    (hleast : least.toNat ≤ 0x80 + bits) (hgreatest : 0x80 + bits ≤ greatest.toNat) :
    least ≤ continuationByte bits ∧ continuationByte bits ≤ greatest := by
  rw [UInt8.le_iff_toNat_le, UInt8.le_iff_toNat_le, toNat_continuationByte h]
  exact ⟨hleast, hgreatest⟩

/-- Bytes that complete a character: each is one that may come next, and the last one is the last
that is owed. -/
inductive Completes : State → List UInt8 → Char → Prop
  | last {state bits c} : state.owed = 1 → bits < 0x40 →
      state.least ≤ continuationByte bits ∧ continuationByte bits ≤ state.greatest →
      Char.ofNat (state.code * 0x40 + bits) = c → Completes state [continuationByte bits] c
  | more {state bits owed bytes c} : state.owed = owed + 2 → bits < 0x40 →
      state.least ≤ continuationByte bits ∧ continuationByte bits ≤ state.greatest →
      Completes ⟨owed + 1, 0x80, 0xBF, state.code * 0x40 + bits⟩ bytes c →
      Completes state (continuationByte bits :: bytes) c

theorem readFrom_completes (h : Completes state bytes c) (rest : List UInt8) :
    readFrom state (bytes ++ rest) = some c :: readFrom .start rest := by
  induction h with
  | last howed hbits hrange hcode =>
    simp [readFrom, step, howed, hrange, continuationByte_sub hbits, hcode]
  | more howed hbits hrange _ ih =>
    simp [readFrom, step, howed, hrange, continuationByte_sub hbits, ih]

theorem unreadableFrom?_completes (h : Completes state bytes c) (start : Nat) (first : UInt8)
    (offset : Nat) (rest : List UInt8) :
    unreadableFrom? state start first offset (bytes ++ rest) =
      unreadableFrom? .start start first (offset + bytes.length) rest := by
  induction h generalizing offset with
  | last howed hbits hrange hcode =>
    simp [unreadableFrom?, step, howed, hrange]
  | more howed hbits hrange _ ih =>
    simp [unreadableFrom?, step, howed, hrange, continuationByte_sub hbits, ih, Nat.add_assoc,
      Nat.add_comm 1]

/-! ## First bytes -/

theorem continuation?_two : ∀ k < 0x20, 2 ≤ k →
    continuation? (0xC0 + k).toUInt8 = some (0x80, 0xBF, 1) ∧ leadingBits (0xC0 + k).toUInt8 = k ∧
      ¬(0xC0 + k).toUInt8 < 0x80 := by
  decide

theorem continuation?_three : ∀ k < 0x10,
    continuation? (0xE0 + k).toUInt8 =
        some (if k = 0 then 0xA0 else 0x80, if k = 0xD then 0x9F else 0xBF, 2) ∧
      leadingBits (0xE0 + k).toUInt8 = k ∧ ¬(0xE0 + k).toUInt8 < 0x80 := by
  decide

theorem continuation?_four : ∀ k < 5,
    continuation? (0xF0 + k).toUInt8 =
        some (if k = 0 then 0x90 else 0x80, if k = 4 then 0x8F else 0xBF, 3) ∧
      leadingBits (0xF0 + k).toUInt8 = k ∧ ¬(0xF0 + k).toUInt8 < 0x80 := by
  decide

/-! ## Characters -/

theorem completes_last (n : Nat) :
    Completes ⟨1, 0x80, 0xBF, n / 0x40⟩ [continuationByte (n % 0x40)] (Char.ofNat n) := by
  have hbits : n % 0x40 < 0x40 := Nat.mod_lt _ (by decide)
  have hcode : n / 0x40 * 0x40 + n % 0x40 = n := by omega
  refine .last rfl hbits (isBetween_continuationByte hbits (by simp) (by simp; omega)) ?_
  simp only [hcode]

/-- One more byte in front, which the byte before it may restrict further. -/
theorem Completes.cons {n owed : Nat} {least greatest : UInt8}
    (h : Completes ⟨owed + 1, 0x80, 0xBF, n⟩ bytes c) (hleast : least.toNat ≤ 0x80 + n % 0x40)
    (hgreatest : 0x80 + n % 0x40 ≤ greatest.toNat) :
    Completes ⟨owed + 2, least, greatest, n / 0x40⟩ (continuationByte (n % 0x40) :: bytes) c := by
  have hbits : n % 0x40 < 0x40 := Nat.mod_lt _ (by decide)
  have hcode : n / 0x40 * 0x40 + n % 0x40 = n := by omega
  refine .more rfl hbits (isBetween_continuationByte hbits hleast hgreatest) ?_
  simpa only [hcode] using h

/-- A character is no half of a pair. -/
theorem toNat_valid (c : Char) : c.toNat < 0xD800 ∨ 0xDFFF < c.toNat ∧ c.toNat < 0x110000 :=
  c.valid

/-- The bytes of a longer character: the first one tells how the others complete it. -/
theorem encodeChar_long (h : 0x80 ≤ c.toNat) :
    ∃ first bytes least greatest owed, encodeChar c = first :: bytes ∧ ¬first < 0x80 ∧
      continuation? first = some (least, greatest, owed) ∧
      Completes ⟨owed, least, greatest, leadingBits first⟩ bytes c := by
  have hvalid := toNat_valid c
  have hc : Char.ofNat c.toNat = c := Char.ofNat_toNat c
  rw [encodeChar]
  generalize c.toNat = n at h hvalid hc
  have hlast := completes_last n
  rw [hc] at hlast
  have hthird : n / 0x1000 = n / 0x40 / 0x40 := by omega
  have hfourth : n / 0x40000 = n / 0x40 / 0x40 / 0x40 := by omega
  rw [if_neg (by omega)]
  split
  · obtain ⟨hcont, hlead, hlow⟩ := continuation?_two (n / 0x40) (by omega) (by omega)
    exact ⟨_, _, _, _, _, rfl, hlow, hcont, hlead.symm ▸ hlast⟩
  · split
    · obtain ⟨hcont, hlead, hlow⟩ := continuation?_three (n / 0x1000) (by omega)
      refine ⟨_, _, _, _, _, rfl, hlow, hcont, ?_⟩
      rw [hlead, hthird]
      refine hlast.cons ?_ ?_
      -- Shorter forms are left out below, and halves of pairs above.
      · split
        · simp; omega
        · simp
      · split
        · simp; omega
        · simp; omega
    · obtain ⟨hcont, hlead, hlow⟩ := continuation?_four (n / 0x40000) (by omega)
      refine ⟨_, _, _, _, _, rfl, hlow, hcont, ?_⟩
      rw [hlead, hthird, hfourth]
      refine (hlast.cons (by simp) (by simp; omega)).cons ?_ ?_
      -- Shorter forms are left out below, and numbers that are too large above.
      · split
        · simp; omega
        · simp
      · split
        · simp; omega
        · simp; omega

theorem encodeChar_short (h : c.toNat < 0x80) :
    ∃ byte : UInt8, encodeChar c = [byte] ∧ byte < 0x80 ∧ Char.ofNat byte.toNat = c := by
  have hbyte : c.toNat.toUInt8.toNat = c.toNat := by
    simp only [Nat.toUInt8, UInt8.toNat_ofNat']
    omega
  refine ⟨_, by rw [encodeChar, if_pos h], ?_, by rw [hbyte, Char.ofNat_toNat]⟩
  rw [UInt8.lt_iff_toNat_lt, hbyte]
  exact h

theorem readFrom_encodeChar (c : Char) (rest : List UInt8) :
    readFrom .start (encodeChar c ++ rest) = some c :: readFrom .start rest := by
  by_cases h : c.toNat < 0x80
  · obtain ⟨byte, heq, hlow, hchar⟩ := encodeChar_short h
    simp [heq, readFrom, step, State.start, beginChar, hlow, hchar]
  · obtain ⟨first, bytes, least, greatest, owed, heq, hlow, hcont, hcompletes⟩ :=
      encodeChar_long (c := c) (by omega)
    have hread := readFrom_completes hcompletes rest
    simp [heq, readFrom, step, State.start, beginChar, hlow, hcont, hread]

theorem unreadableFrom?_encodeChar (c : Char) (start : Nat) (first : UInt8) (offset : Nat)
    (rest : List UInt8) :
    ∃ start' first' offset', unreadableFrom? .start start first offset (encodeChar c ++ rest) =
      unreadableFrom? .start start' first' offset' rest := by
  by_cases h : c.toNat < 0x80
  · obtain ⟨byte, heq, hlow, _⟩ := encodeChar_short h
    refine ⟨offset, byte, offset + 1, ?_⟩
    simp [heq, unreadableFrom?, step, State.start, beginChar, hlow]
  · obtain ⟨first, bytes, least, greatest, owed, heq, hlow, hcont, hcompletes⟩ :=
      encodeChar_long (c := c) (by omega)
    refine ⟨offset, first, offset + 1 + bytes.length, ?_⟩
    have hread := unreadableFrom?_completes hcompletes offset first (offset + 1) rest
    simp [heq, unreadableFrom?, step, State.start, beginChar, hlow, hcont, hread]

/-! ## Texts -/

theorem decode_encode (text : List Char) : decode (encode text) = text := by
  have hread : readFrom .start (encode text) = text.map some := by
    induction text with
    | nil => rfl
    | cons c text ih =>
      have hcons : encode (c :: text) = encodeChar c ++ encode text := List.flatMap_cons
      rw [hcons, readFrom_encodeChar, ih, List.map_cons]
  rw [decode, hread, List.map_map]
  exact List.map_id text

/-- Text that was written reads back. -/
theorem decodeStrict_encode (text : List Char) : decodeStrict (encode text) = .ok text := by
  have hnone : ∀ start first offset, unreadableFrom? .start start first offset (encode text) = none := by
    induction text with
    | nil => exact fun _ _ _ => rfl
    | cons c text ih =>
      intro start first offset
      have hcons : encode (c :: text) = encodeChar c ++ encode text := List.flatMap_cons
      obtain ⟨start', first', offset', hstep⟩ :=
        unreadableFrom?_encodeChar c start first offset (encode text)
      rw [hcons, hstep, ih]
  rw [decodeStrict, hnone, decode_encode]

end PageBlocks.Text.Utf8
