import PageBlocks.Charset.Shifted
/-!
# Where readers break down

A reader that goes through bytes piece by piece breaks down just where it arrives at bytes that it has no
piece for.  Of the sets with escape sequences only one has a third place, and its reader breaks down
where a byte of this place is marked while a set of the first place is designated for it.

## Main results

* `Reader.decode_eq_none_iff` — a reader gives no text just when it arrives where it has no piece.
* `Reader.Arrives.invariant` — what every piece keeps holds wherever a reader arrives.
* `Escaped.decode_eq_none_iff` — which bytes in escape sequences give no text.
* `Escaped.LosesState.isInfix` — they contain the sequence that does it.
-/

namespace PageBlocks.Charset

/-! ## Arrivals -/

namespace Reader

variable {σ : Type} {reader : Reader σ}

/-- A reader that starts in one state at some bytes comes to another state at what is left of them. -/
inductive Arrives (reader : Reader σ) : σ → List UInt8 → σ → List UInt8 → Prop
  | here (state : σ) (bytes : List UInt8) : Arrives reader state bytes state bytes
  | next {state last : σ} {byte : UInt8} {rest left : List UInt8} {piece : Piece σ}
      (read : reader.piece? state byte rest = some piece)
      (arrives : Arrives reader piece.state (rest.drop piece.behind) last left) :
      Arrives reader state (byte :: rest) last left

/-- What every piece keeps holds wherever a reader arrives. -/
theorem Arrives.invariant {P : σ → List UInt8 → Prop}
    (keeps : ∀ {state byte rest piece}, P state (byte :: rest) →
      reader.piece? state byte rest = some piece → P piece.state (rest.drop piece.behind))
    {state last : σ} {bytes left : List UInt8} (h : reader.Arrives state bytes last left)
    (start : P state bytes) : P last left := by
  induction h with
  | here => exact start
  | next read _ ih => exact ih (keeps start read)

/-- A reader gives no text just when it arrives where it has no piece. -/
theorem decodeFrom_eq_none_iff (state : σ) (bytes : List UInt8) :
    reader.decodeFrom state 0 bytes = none ↔
      ∃ last byte rest, reader.Arrives state bytes last (byte :: rest) ∧
        reader.piece? last byte rest = none := by
  constructor
  · intro h
    induction hlength : bytes.length using Nat.strongRecOn generalizing state bytes with
    | ind length ih =>
    cases bytes with
    | nil => cases h
    | cons byte rest =>
      cases hread : reader.piece? state byte rest with
      | none => exact ⟨state, byte, rest, .here _ _, hread⟩
      | some piece =>
        rw [decodeFrom_cons reader hread, Option.map_eq_none_iff] at h
        have hshorter : (rest.drop piece.behind).length < length := by
          rw [← hlength, List.length_drop, List.length_cons]
          omega
        obtain ⟨last, stop, left, harrives, hstop⟩ := ih _ hshorter _ _ h rfl
        exact ⟨last, stop, left, .next hread harrives, hstop⟩
  · rintro ⟨last, stop, left, harrives, hstop⟩
    generalize hleft : stop :: left = remaining at harrives
    induction harrives with
    | here =>
      subst hleft
      rw [decodeFrom, hstop]
    | next hread _ ih => rw [decodeFrom_cons reader hread, ih hstop hleft, Option.map_none]

theorem decode_eq_none_iff (bytes : List UInt8) :
    reader.decode bytes = none ↔
      ∃ last byte rest, reader.Arrives reader.start bytes last (byte :: rest) ∧
        reader.piece? last byte rest = none :=
  decodeFrom_eq_none_iff reader.start bytes

/-- A reader that has a piece for all bytes gives a text. -/
theorem exists_decode_steady (start : σ) (piece : σ → UInt8 → List UInt8 → Piece σ)
    (ending : σ → List Char) (bytes : List UInt8) :
    ∃ text, (steady start piece ending).decode bytes = some text := by
  refine Option.ne_none_iff_exists'.1 fun hnone => ?_
  obtain ⟨last, byte, rest, -, hread⟩ := (decode_eq_none_iff bytes).1 hnone
  cases hread

end Reader

/-! ## Escape sequences -/

namespace Escaped

variable {set : Escaped} {state : State} {byte : UInt8} {rest : List UInt8}

/-- There is no piece just where a byte of the third place is marked and the set that is designated
there has none. -/
theorem piece?_eq_none_iff :
    set.piece? state byte rest = none ↔
      state.isPassing = false ∧ set.hasThird = true ∧ thirdReading? state.third = none ∧
        ∃ third after, byte :: rest = 0x1B :: 0x4E :: third :: after := by
  constructor
  · intro h
    rw [piece?] at h
    split at h
    · cases h
    · next hpassing =>
      split at h
      · next hbyte =>
        subst hbyte
        unfold escapePiece? at h
        split at h
        · cases h
        · next second rest =>
          split at h
          · cases h
          · split at h
            · next hthird =>
              rw [Bool.and_eq_true, decide_eq_true_eq] at hthird
              obtain ⟨hplace, rfl⟩ := hthird
              split at h
              · cases h
              · next third after =>
                rw [thirdPiece?, Option.map_eq_none_iff] at h
                exact ⟨by simpa using hpassing, hplace, h, third, after, rfl⟩
            · cases h
      · repeat' split at h
        all_goals cases h
  · rintro ⟨hpassing, hplace, hthird, third, after, hbytes⟩
    obtain ⟨rfl, rfl⟩ := List.cons.inj hbytes
    simp [piece?, escapePiece?, opensDesignation, thirdPiece?, hpassing, hplace, hthird]

/-- The set with a third place. -/
theorem eq_of_hasThird (h : set.hasThird = true) : set = japanese2 := by
  simpa [hasThird] using h

/-- What is known of a set that a sequence has designated for the third place. -/
structure DesignatesThird (set : Escaped) (sequence : List UInt8) (designated : Designated) :
    Prop where
  hasThird : set.hasThird = true
  known : designated = .basic ∨ designated ∈ set.designations
  single : designated.isWide = false
  written : ∃ escape, sequence = [escape, 0x2E, designated.mark]

theorem designatesThird_of_designation? {sequence : List UInt8} {designated : Designated}
    (h : set.designation? sequence = some (.third, designated)) :
    set.DesignatesThird sequence designated := by
  rw [designation?, Option.bind_eq_some_iff] at h
  obtain ⟨⟨place, mark, isWide⟩, hread, hfind⟩ := h
  obtain ⟨found, hfound, hpair⟩ := Option.map_eq_some_iff.1 hfind
  obtain ⟨rfl, rfl⟩ := Prod.mk.inj hpair
  have hfits := List.find?_some hfound
  rw [Bool.and_eq_true, decide_eq_true_eq, decide_eq_true_eq] at hfits
  obtain ⟨rfl, rfl⟩ := hfits
  have hmem := List.mem_of_find?_eq_some hfound
  unfold readSequence? at hread
  split at hread <;> try cases hread
  · next escape mark =>
    split at hread
    · next hplace =>
      obtain ⟨-, hmark, hwide⟩ : Place.third = .third ∧ mark = _ ∧ false = _ := by
        simpa using hread
      exact ⟨hplace, List.mem_cons.1 hmem, hwide.symm, escape, by rw [hmark]⟩
    · cases hread
  · split at hread <;> cases hread

theorem plainPiece_state (state : State) (byte : UInt8) (rest : List UInt8) :
    (plainPiece state byte rest).state = state := by
  unfold plainPiece
  dsimp only
  generalize (if state.isShifted = true then state.second else state.first) = designated
  cases designated.isWide with
  | false => exact Piece.ofOption_state 0 state _
  | true =>
    cases rest with
    | nil => rfl
    | cons second after =>
      dsimp only [if_true]
      cases designated.characters? (lowIndex byte) (lowIndex second) <;> rfl

theorem thirdPiece?_state {piece : Piece State} (h : thirdPiece? state byte = some piece) :
    piece.state = state := by
  obtain ⟨read, -, rfl⟩ := Option.map_eq_some_iff.1 h
  split <;> rfl

theorem sequencePiece_third (set : Escaped) (state : State) (bytes : List UInt8) :
    (set.sequencePiece state bytes).state.third = state.third ∨
      ∃ length, set.DesignatesThird (bytes.take length)
        (set.sequencePiece state bytes).state.third := by
  unfold sequencePiece
  split
  · exact .inl rfl
  · exact .inl rfl
  · next length _ =>
    split
    · next place designated hdesignation =>
      cases place with
      | first => exact .inl rfl
      | second => exact .inl rfl
      | third => exact .inr ⟨length, designatesThird_of_designation? hdesignation⟩
    · exact .inl rfl

/-- A piece leaves the third place alone, unless it is a sequence that designates a set for it. -/
theorem third_of_piece? {piece : Piece State} (h : set.piece? state byte rest = some piece) :
    piece.state.third = state.third ∨
      byte = 0x1B ∧ ∃ length, set.DesignatesThird ((byte :: rest).take length)
        piece.state.third := by
  rw [piece?] at h
  split at h
  · cases h
    exact .inl rfl
  · split at h
    · next hbyte =>
      subst hbyte
      unfold escapePiece? at h
      split at h
      · cases h
        exact .inl rfl
      · next second rest =>
        split at h
        · cases h
          exact (sequencePiece_third set state _).imp_right fun hthird => ⟨rfl, hthird⟩
        · split at h
          · split at h
            · cases h
              exact .inl rfl
            · exact .inl (by rw [thirdPiece?_state h])
          · cases h
            exact .inl rfl
    · repeat' split at h
      all_goals
        cases h
        first
          | exact .inl rfl
          | exact .inl (by rw [plainPiece_state])

/-- The sequence that designates the set of the first place for the third one. -/
def romanThird : List UInt8 := [0x1B, 0x2E, Designated.roman.mark]

/-- Wherever the reader arrives, the set at the third place has a reading, or the sequence was there that
takes it away. -/
structure KeepsThird (whole : List UInt8) (state : State) (left : List UInt8) : Prop where
  isSuffix : left <:+ whole
  third : (thirdReading? state.third).isSome ∨ state.third = .roman ∧ romanThird <:+: whole

/-- A set that has come to the third place has a reading, unless it is that of the first place. -/
theorem DesignatesThird.reading {sequence : List UInt8} {designated : Designated}
    (h : set.DesignatesThird sequence designated) :
    (thirdReading? designated).isSome ∨ designated = .roman := by
  obtain rfl := eq_of_hasThird h.hasThird
  have hsingle := h.single
  obtain rfl | hknown := h.known
  · exact .inl rfl
  · simp only [designations, List.mem_cons, List.not_mem_nil, or_false] at hknown
    rcases hknown with rfl | rfl | rfl | rfl | rfl | rfl | rfl | rfl
    all_goals first | exact .inr rfl | exact .inl rfl | cases hsingle

theorem KeepsThird.piece {whole : List UInt8} {piece : Piece State}
    (h : KeepsThird whole state (byte :: rest)) (read : set.piece? state byte rest = some piece) :
    KeepsThird whole piece.state (rest.drop piece.behind) where
  isSuffix := ((List.drop_suffix _ _).trans (List.suffix_cons byte rest)).trans h.isSuffix
  third := by
    obtain hsame | ⟨rfl, length, hdesignates⟩ := third_of_piece? read
    · rw [hsame]
      exact h.third
    · refine hdesignates.reading.imp_right fun hroman => ⟨hroman, ?_⟩
      obtain ⟨escape, hwritten⟩ := hdesignates.written
      rw [hroman] at hwritten
      have hprefix : [escape, 0x2E, Designated.roman.mark] <+: 0x1B :: rest :=
        hwritten ▸ List.take_prefix length _
      obtain ⟨rfl, -⟩ := List.cons_prefix_cons.1 hprefix
      exact hprefix.isInfix.trans h.isSuffix.isInfix

theorem keepsThird_of_arrives {bytes left : List UInt8}
    (h : set.reader.Arrives start bytes state left) : KeepsThird bytes state left :=
  h.invariant KeepsThird.piece ⟨List.suffix_refl _, .inl rfl⟩

/-- The bytes mark a byte of the third place while the set of the first place is designated for it. -/
def LosesState (set : Escaped) (bytes : List UInt8) : Prop :=
  set.hasThird = true ∧ ∃ state third after,
    set.reader.Arrives start bytes state (0x1B :: 0x4E :: third :: after) ∧
      state.isPassing = false ∧ state.third = .roman

/-- Bytes in a set with escape sequences give no text just when they lose the state of the reader. -/
theorem decode_eq_none_iff (set : Escaped) (bytes : List UInt8) :
    set.reader.decode bytes = none ↔ set.LosesState bytes := by
  rw [Reader.decode_eq_none_iff]
  constructor
  · rintro ⟨state, byte, rest, harrives, hread⟩
    obtain ⟨hpassing, hplace, hthird, third, after, hbytes⟩ := piece?_eq_none_iff.1 hread
    have hroman : state.third = .roman := by
      obtain hreading | ⟨hroman, -⟩ := (keepsThird_of_arrives harrives).third
      · simp [hthird] at hreading
      · exact hroman
    exact ⟨hplace, state, third, after, hbytes ▸ harrives, hpassing, hroman⟩
  · rintro ⟨hplace, state, third, after, harrives, hpassing, hroman⟩
    exact ⟨state, _, _, harrives, piece?_eq_none_iff.2
      ⟨hpassing, hplace, by rw [hroman]; rfl, third, after, rfl⟩⟩

/-- Bytes that lose the state of the reader contain the sequence that does it. -/
theorem LosesState.isInfix {bytes : List UInt8} (h : set.LosesState bytes) :
    romanThird <:+: bytes := by
  obtain ⟨-, state, third, after, harrives, -, hroman⟩ := h
  obtain hreading | ⟨-, hinfix⟩ := (keepsThird_of_arrives harrives).third
  · rw [hroman] at hreading
    cases hreading
  · exact hinfix

end Escaped

end PageBlocks.Charset
