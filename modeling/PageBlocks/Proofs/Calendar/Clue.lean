import PageBlocks.Calendar.Reader
/-!
# What is learnt from the tokens of a date

Numbers of a date are only ever added, and a place that is said to hold the year or the month is that
of a number that has just been added.  Each token keeps it that way, whatever it tells, and so do all of
them.  So when the year and the day of a date are told apart, its month is as well: numbers are told
apart by their size or by their places, and never in such a way that just the month is left out.

## Main results

* `Clues.placed_readToken` — a token keeps the places of the year and the month among the numbers.
* `Clues.placed_readTokens` — so do all tokens.
* `Members.Placed.hasMonth_resolve` — where a year and a day are told, a month is told.
-/

namespace PageBlocks.Calendar

/-- What comes out, if anything does, has a property. -/
def Yields (P : α → Prop) (outcome : Except ε α) : Prop :=
  ∀ result, outcome = .ok result → P result

namespace Yields

variable {P : α → Prop} {Q : β → Prop}

theorem ok {result : α} (h : P result) : Yields P (.ok result : Except ε α) := by
  rintro _ ⟨⟩
  exact h

theorem error {fault : ε} : Yields P (.error fault : Except ε α) := by
  rintro _ ⟨⟩

theorem bind {outcome : Except ε α} {next : α → Except ε β} (h : Yields P outcome)
    (hnext : ∀ result, P result → Yields Q (next result)) : Yields Q (outcome >>= next) := by
  cases outcome with
  | error fault => exact error
  | ok result => exact hnext result (h result rfl)

/-- Nothing needs to be known about what comes out first. -/
theorem bind_any {outcome : Except ε α} {next : α → Except ε β}
    (hnext : ∀ result, Yields Q (next result)) : Yields Q (outcome >>= next) := by
  cases outcome with
  | error fault => exact error
  | ok result => exact hnext result

theorem map {outcome : Except ε α} {f : α → β} (h : Yields (fun result => Q (f result)) outcome) :
    Yields Q (outcome.map f) := by
  cases outcome with
  | error fault => exact error
  | ok result => exact ok (h result rfl)

theorem map_any {outcome : Except ε α} {f : α → β} (h : ∀ result, Q (f result)) :
    Yields Q (outcome.map f) :=
  map fun result _ => h result

end Yields

namespace Members

/-- The places of the year and of the month are among those of the numbers. -/
structure Placed (members : Members) : Prop where
  year : ∀ place ∈ members.yearPlace?, place < members.values.length
  month : ∀ place ∈ members.monthPlace?, place < members.values.length

theorem placed_empty : empty.Placed where
  year _ h := by cases h
  month _ h := by cases h

variable {members : Members}

theorem Placed.withCentury (h : members.Placed) (hasCentury : Bool) :
    { members with hasCentury }.Placed :=
  ⟨h.year, h.month⟩

/-- A number that is added is behind the others, and this is the place that it may be known by. -/
theorem Placed.add (h : members.Placed) (value : Nat) (role? : Option Role) :
    Yields Placed (members.add value role?) := by
  have hyear : ∀ place ∈ members.yearPlace?, place < (members.values ++ [value]).length := by
    intro place hplace
    rw [List.length_append]
    exact Nat.lt_add_right 1 (h.year place hplace)
  have hmonth : ∀ place ∈ members.monthPlace?, place < (members.values ++ [value]).length := by
    intro place hplace
    rw [List.length_append]
    exact Nat.lt_add_right 1 (h.month place hplace)
  have hnew : ∀ place ∈ some members.values.length, place < (members.values ++ [value]).length := by
    rintro _ ⟨⟩
    simp
  unfold Members.add
  split
  · exact .ok ⟨hyear, hmonth⟩
  · split
    · exact .error
    · exact .ok ⟨hnew, hmonth⟩
  · split
    · exact .error
    · exact .ok ⟨hyear, hnew⟩

theorem Placed.addFullYear (h : members.Placed) (value : Nat) :
    Yields Placed (members.addFullYear value) :=
  (h.withCentury true).add value (some .year)

theorem Placed.addText (h : members.Placed) (token : Token) (role? : Option Role) :
    Yields Placed (members.addText token role?) := by
  refine .bind_any fun value => ?_
  split
  · exact h.addFullYear value
  · exact h.add value role?

theorem Placed.addAmount (h : members.Placed) (amount : Amount) :
    Yields Placed (members.addAmount amount) := by
  unfold Members.addAmount
  split
  · exact h.addFullYear amount.whole
  · exact h.add amount.whole none

/-- If a year and a day are told, a month is told. -/
def Parts.HasMonth (parts : Parts) : Prop :=
  parts.year.isSome → parts.day.isSome → parts.month.isSome

/-- A single number beside the month is the year or the day. -/
theorem hasMonth_resolveSingle (month? : Option Nat) (other : Nat) :
    (resolveSingle month? other).HasMonth := by
  unfold resolveSingle Parts.HasMonth
  split <;> simp

theorem hasMonth_resolvePair (first second : Nat) : (resolvePair first second).HasMonth := by
  unfold resolvePair Parts.HasMonth
  split
  · simp
  · split <;> simp

theorem hasMonth_resolveTriple (first second third : Nat) :
    (members.resolveTriple first second third).HasMonth := by
  unfold resolveTriple Parts.HasMonth
  grind

/-- Where a year and a day are told, a month is told. -/
theorem Placed.hasMonth_resolve (h : members.Placed) : Yields Parts.HasMonth members.resolve := by
  unfold resolve
  split
  · exact .ok fun hyear => absurd hyear (by simp)
  · exact .ok fun _ hday => absurd hday (by simp)
  · exact .ok fun hyear => absurd hyear (by simp)
  · exact .ok (hasMonth_resolveSingle none _)
  · exact .ok fun _ _ => by split <;> rfl
  · exact .ok (by split <;> exact hasMonth_resolveSingle _ _)
  · exact .ok (hasMonth_resolvePair _ _)
  · next first second third yearPlace monthPlace hvalues hyear hmonth =>
    have hlt : monthPlace < members.values.length := h.month monthPlace hmonth
    exact .ok fun _ _ => by simp [resolveKnown, hlt]
  · exact .ok (hasMonth_resolveTriple _ _ _)
  · exact .error

end Members

namespace Clues

variable {clues : Clues}

/-- The places of the year and of the month are among those of the numbers. -/
abbrev Placed (clues : Clues) : Prop := clues.members.Placed

theorem placed_withMembers {members : Except Fault Members} (h : Yields Members.Placed members)
    (taken : Nat) : Yields (·.2.Placed) (clues.withMembers taken members) :=
  .map fun result hresult => h result hresult

/-! ## Time of day -/

theorem placed_withMinutes (h : clues.Placed) (amount : Amount) :
    Yields Placed (clues.withMinutes amount) :=
  .map_any fun _ => h

theorem placed_withUnit (h : clues.Placed) (token : Token) (amount : Amount) (unit : Nat) :
    Yields Placed (clues.withUnit token amount unit) := by
  unfold withUnit
  split
  · exact .map_any fun _ => h
  · exact placed_withMinutes h amount
  · exact .map_any fun _ => h
  · exact .ok h

theorem placed_withClock (h : clues.Placed) (token : Token) :
    Yields Placed (clues.withClock token) := by
  refine .bind_any fun hour => ?_
  split
  · exact .bind_any fun minute => .ok h
  · exact .ok h

theorem placed_withFullClock (h : clues.Placed) (token : Token) :
    Yields Placed (clues.withFullClock token) :=
  .bind_any fun _ => .bind_any fun _ => .bind_any fun _ => .ok h

theorem placed_withColons (h : clues.Placed) (amount : Amount) (minutes : Token)
    (after : List Token) : Yields (·.2.Placed) (clues.withColons amount minutes after) := by
  have hhour : Placed { clues with hour := some amount.whole } := h
  unfold withColons
  split
  · exact .error
  · refine .bind (placed_withMinutes hhour _) fun clues hclues => ?_
    split
    · exact .bind_any fun second => .ok hclues
    · exact .ok hclues

/-! ## Members of the date -/

theorem placed_shortDate {members : Members} (h : members.Placed) (token : Token) :
    Yields Members.Placed (shortDate members token) :=
  .bind (h.addText _ _) fun _ h => .bind (h.addText _ _) fun _ h => h.addText _ _

theorem placed_longDate (h : clues.Placed) (token : Token) :
    Yields Placed (clues.longDate token) := by
  refine .bind (h.addText _ _) fun _ h => .bind (h.addText _ _) fun _ h =>
    .bind (h.addText _ _) fun _ h => ?_
  dsimp only
  split
  · exact .ok h
  · refine .bind_any fun hour => .bind_any fun minute => ?_
    split
    · exact .ok h
    · exact .bind_any fun second => .ok h

theorem placed_addNamed {members : Members} (h : members.Placed) (token : Token) :
    Yields Members.Placed (addNamed members token) := by
  unfold addNamed
  split
  · exact h.add _ _
  · exact h.addText _ _

theorem placed_addSecond {members : Members} (h : members.Placed) (token : Token) :
    Yields Members.Placed (addSecond members token) := by
  unfold addSecond
  split
  · exact h.addText _ _
  · split
    · exact h.add _ _
    · exact .error

theorem placed_withMarked (h : clues.Placed) (token mark : Token) (after : List Token) :
    Yields (·.2.Placed) (clues.withMarked token mark after) := by
  refine .bind (h.addText _ _) fun _ h => ?_
  split
  · exact .ok h
  · split
    · exact .ok h
    · refine .bind (placed_addSecond h _) fun _ h => ?_
      split
      · split
        · split
          · exact placed_withMembers (placed_addNamed h _) 4
          · exact .error
        · exact .ok h
      · exact .ok h

theorem placed_withSingle (h : clues.Placed) (amount : Amount) (after : List Token) :
    Yields (·.2.Placed) (clues.withSingle amount after) := by
  unfold withSingle
  split
  · exact .ok h
  · exact placed_withMembers (h.addAmount amount) 1

theorem placed_readPlain (h : clues.Placed) (after : List Token) (amount : Amount) :
    Yields (·.2.Placed) (clues.readPlain after amount) := by
  have hday : Yields (·.2.Placed) (if clues.members.mayBeDay amount then
      clues.withMembers 0 (clues.members.addAmount amount) else .error .unreadable) := by
    split
    · exact placed_withMembers (h.addAmount amount) 0
    · exact .error
  unfold readPlain
  split
  · exact placed_withSingle h amount after
  · split
    · split
      · exact .ok h
      · exact hday
    · exact hday

theorem placed_readNumber (h : clues.Placed) (before after : List Token) (token : Token)
    (amount : Amount) : Yields (·.2.Placed) (clues.readNumber before after token amount) := by
  unfold readNumber
  dsimp only
  split
  · exact .map (placed_withClock h token)
  split
  · split
    · exact placed_withMembers (placed_shortDate h token) 0
    · exact .map (placed_withFullClock h token)
  split
  · exact .map (placed_longDate h token)
  split
  · exact .map (placed_withUnit h token amount _)
  split
  · split
    · exact placed_withColons h amount _ _
    · split
      · exact placed_withMarked h token _ _
      · exact placed_readPlain h _ amount
  · split
    · exact placed_withMarked h token _ _
    · exact placed_readPlain h _ amount
  · exact placed_readPlain h _ amount

/-! ## Words -/

theorem placed_readMonth (h : clues.Placed) (after : List Token) (month : Nat) :
    Yields (·.2.Placed) (clues.readMonth after month) := by
  refine .bind (h.add _ _) fun _ h => ?_
  split
  · split
    · split
      · exact .error
      · refine .bind (h.addText _ _) fun _ h => ?_
        split
        · split
          · exact placed_withMembers (h.addText _ _) 4
          · exact .error
        · exact .ok h
    · split
      · split
        · split
          · exact .bind_any fun value => placed_withMembers (h.addFullYear _) 4
          · exact .ok h
        · exact .ok h
      · exact .ok h
  · exact .ok h

theorem placed_readHalf (h : clues.Placed) (half : Nat) :
    Yields (·.2.Placed) (clues.readHalf half) := by
  unfold readHalf
  split
  · split
    · exact .ok h
    · exact .error
  · exact .error

theorem placed_readZone (h : clues.Placed) (after : List Token) (token : Token) :
    (clues.readZone after token).Placed := by
  unfold readZone
  split
  · exact h
  · exact h

theorem placed_readSign (h : clues.Placed) (after : List Token) (sign : Token) :
    Yields (·.2.Placed) (clues.readSign after sign) := by
  refine .bind_any fun ⟨hours, minutes, taken⟩ => ?_
  dsimp only
  split
  · exact .ok h
  · exact .ok h

theorem placed_readWord (h : clues.Placed) (after : List Token) (token : Token) :
    Yields (·.2.Placed) (clues.readWord after token) := by
  unfold readWord
  split
  · exact .error
  split
  · exact .ok h
  · exact placed_readMonth h after _
  · exact placed_readHalf h _
  split
  · exact .ok (placed_readZone h after token)
  split
  · exact placed_readSign h after token
  split
  · exact .ok h
  · exact .error

/-! ## Tokens -/

/-- A token keeps the places of the year and the month among the numbers. -/
theorem placed_readToken (h : clues.Placed) (before after : List Token) (token : Token) :
    Yields (·.2.Placed) (clues.readToken before after token) := by
  unfold readToken
  split
  · exact placed_readNumber h before after token _
  · exact placed_readWord h after token

/-- All tokens keep the places of the year and the month among the numbers. -/
theorem placed_readTokens (h : clues.Placed) (before tokens : List Token) :
    Yields Placed (readTokens before tokens clues) := by
  fun_induction readTokens before tokens clues with
  | case1 before clues => exact .ok h
  | case2 before token after clues fault hfault => exact .error
  | case3 before token after clues taken next hnext ih =>
    exact ih (placed_readToken h before after token _ hnext)

end Clues

end PageBlocks.Calendar
