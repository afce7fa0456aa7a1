import PageBlocks.Proofs.Command.Session
import PageBlocks.Proofs.Rule.Builder
/-!
# Calls of a builder

A builder is given plain data by one call after another.  A call that meets data that it can tell to
make no sense fails.  What it took before it met such data stays: the entries of a list are taken one
by one, where a rule is checked as a whole before it changes anything.  Other data that is no entry
is taken as well, and shows when the document is finished.

Every builder that calls lead to has entries that are distinct and are known to be entries or known
to be none, so that it has a document exactly when it holds one.

## Main results

* `RuleBuilder.Sound.build_iff` — the document of a builder is the one that it holds.
* `BuilderCall.sound_run` — a call, failing or not, leaves a sound builder.
* `BuilderCall.run_keeps_or_builds` — when a failing call changes nothing and when there is a document
  after a call.
* `BuilderCall.build_distinct` — what is there once in the document of a builder.
-/

namespace PageBlocks

open RuleBuilder

/-! ## Pending entries -/

namespace PendingEntry

/-- The entry, if it is known to be one. -/
def known? : PendingEntry → Option CleanupEntry
  | .checked entry => some entry
  | .unchecked _ => none

/-- Does the check of an entry tell no more than is known already? -/
def IsSettled (pending : PendingEntry) : Prop :=
  pending.check.toOption = pending.known?

theorem isSettled_of_ofJson {value : Json} {pending : PendingEntry}
    (h : PendingEntry.ofJson value = .ok pending) : pending.IsSettled := by
  cases value with
  | object fields =>
    obtain ⟨selector, -, rfl⟩ := Checked.exists_of_map_ok h
    rfl
  | _ =>
    cases h
    rfl

theorem IsSettled.check_eq_ok {pending : PendingEntry} (h : pending.IsSettled)
    {entry : CleanupEntry} : pending.check = .ok entry ↔ pending = .checked entry := by
  cases pending with
  | checked other => simp [check]
  | unchecked value =>
    have hnone : (check (.unchecked value)).toOption = none := h
    constructor
    · intro hok
      rw [hok] at hnone
      cases hnone
    · intro heq
      cases heq

theorem known?_eq_of_same {first second : PendingEntry} (h : same first second = true) :
    first.known? = second.known? := by
  cases first <;> cases second <;> simp_all [same, known?]

/-- A list of settled entries passes the check as the entries that it holds. -/
theorem itemsFrom_check {entries : List PendingEntry} (h : ∀ entry ∈ entries, entry.IsSettled)
    (place : Nat) {results : List CleanupEntry} :
    Checked.itemsFrom check place entries = .ok results ↔ entries = results.map .checked := by
  constructor
  · intro hitems
    induction entries generalizing place results with
    | nil =>
      cases hitems
      rfl
    | cons pending entries ih =>
      obtain ⟨⟨first, rest⟩, hboth, rfl⟩ := Checked.exists_of_map_ok hitems
      obtain ⟨hfirst, hrest⟩ := Checked.both_ok.1 hboth
      obtain ⟨hpending, hothers⟩ := List.forall_mem_cons.1 h
      rw [List.map_cons, ← ih hothers _ hrest,
        hpending.check_eq_ok.1 (Checked.inside_ok.1 hfirst)]
  · rintro rfl
    have hentry (entry : CleanupEntry) : check (.checked entry) = .ok entry := rfl
    exact Checked.itemsFrom_map hentry place results

/-! ### Adding an entry -/

variable {entries : List PendingEntry} {pending : PendingEntry}

theorem nodup_insertNew_same (h : (entries.filterMap known?).Nodup) :
    ((insertNew same entries pending).filterMap known?).Nodup := by
  rw [insertNew]
  split
  · exact h
  · next hany =>
    cases pending with
    | unchecked value =>
      have hnone : [unchecked value].filterMap known? = [] := rfl
      rw [List.filterMap_append, hnone, List.append_nil]
      exact h
    | checked entry =>
      have hnew : entry ∉ entries.filterMap known? := by
        intro hmem
        obtain ⟨other, hother, hentry⟩ := List.mem_filterMap.1 hmem
        cases other with
        | unchecked value => cases hentry
        | checked other =>
          cases hentry
          exact hany (List.any_eq_true.2 ⟨_, hother, decide_eq_true rfl⟩)
      rw [List.filterMap_append, List.nodup_append]
      refine ⟨h, by simp [known?], ?_⟩
      intro other hother last hlast heq
      obtain rfl : last = entry := by simpa [known?] using hlast
      exact hnew (heq ▸ hother)

theorem forall_mem_insertNew_same :
    (∀ other ∈ insertNew same entries pending, other.known?.isSome) ↔
      (∀ other ∈ entries, other.known?.isSome) ∧ pending.known?.isSome := by
  rw [insertNew]
  split
  · next hany =>
    obtain ⟨other, hother, hsame⟩ := List.any_eq_true.1 hany
    refine ⟨fun hall => ⟨hall, ?_⟩, And.left⟩
    rw [known?_eq_of_same hsame]
    exact hall other hother
  · simp [or_imp, forall_and]

end PendingEntry

/-! ## Sound builders -/

namespace RuleBuilder

variable {builder : RuleBuilder} {result : RuleDocument}

/-- What is removed in a phase. -/
def entries (builder : RuleBuilder) : CleanupPhase → List PendingEntry
  | .start => builder.start
  | .finish => builder.finish

/-- Is there an entry like a given one? -/
def holds (builder : RuleBuilder) (phase : CleanupPhase) (pending : PendingEntry) : Bool :=
  (builder.entries phase).any pending.same

/-- Is everything that is removed known to be an known? -/
def IsKnown (builder : RuleBuilder) : Prop :=
  ∀ phase, ∀ pending ∈ builder.entries phase, pending.known?.isSome

/-- Is the root a text or nothing, and is everything that is removed settled and there once? -/
structure Sound (builder : RuleBuilder) : Prop where
  root : ∃ selector, builder.root = textOrNullJson selector
  settled : ∀ phase, ∀ pending ∈ builder.entries phase, pending.IsSettled
  distinct : ∀ phase, ((builder.entries phase).filterMap PendingEntry.known?).Nodup

theorem filterMap_known?_checked (entries : List CleanupEntry) :
    (entries.map PendingEntry.checked).filterMap PendingEntry.known? = entries := by
  rw [List.filterMap_map]
  exact List.filterMap_some

theorem sound_ofDocument (document : RuleDocument) : (ofDocument document).Sound := by
  rw [ofDocument_eq]
  refine ⟨⟨_, rfl⟩, fun phase pending hpending => ?_, fun phase => ?_⟩
  · cases phase <;>
    · obtain ⟨entry, -, rfl⟩ := List.mem_map.1 hpending
      rfl
  · cases phase <;>
    · rw [entries, holding, filterMap_known?_checked]
      exact nodup_eraseDups _

theorem textOrNull_ok {selector : Option String} {root : Json}
    (hroot : ∃ selector, root = textOrNullJson selector) :
    Checked.textOrNull root = .ok selector ↔ root = textOrNullJson selector := by
  obtain ⟨other, rfl⟩ := hroot
  rw [Checked.textOrNull_textOrNullJson]
  cases other <;> cases selector <;> simp [textOrNullJson]

/-- A sound builder is finished as the document that it holds. -/
theorem Sound.build_iff (h : builder.Sound) : builder.build = .ok result ↔ builder = holding result := by
  refine ⟨fun hbuild => ?_, fun heq => heq ▸ build_holding result⟩
  obtain ⟨root, start, finish, blocks, transformers⟩ := builder
  simp only [build, bind, Except.bind] at hbuild
  split at hbuild
  · cases hbuild
  next both hboth =>
  split at hbuild
  · cases hbuild
  next selector hselector =>
  cases hbuild
  obtain ⟨hstart, hfinish⟩ := Checked.both_ok.1 hboth
  have hroot := (textOrNull_ok h.root).1 (Checked.inside_ok.1 hselector)
  have hfirst := (PendingEntry.itemsFrom_check (h.settled .start) 0).1 (Checked.inside_ok.1 hstart)
  have hlast := (PendingEntry.itemsFrom_check (h.settled .finish) 0).1 (Checked.inside_ok.1 hfinish)
  simp only [entries] at hfirst hlast
  simp only [holding, RuleBuilder.mk.injEq, and_true]
  exact ⟨hroot, hfirst, hlast⟩

theorem map_checked_filterMap {entries : List PendingEntry}
    (h : ∀ pending ∈ entries, pending.known?.isSome) :
    (entries.filterMap PendingEntry.known?).map .checked = entries := by
  induction entries with
  | nil => rfl
  | cons pending entries ih =>
    obtain ⟨hpending, hrest⟩ := List.forall_mem_cons.1 h
    cases pending with
    | checked entry => simp [PendingEntry.known?, ih hrest]
    | unchecked value => cases hpending

/-- A sound builder has a document exactly when everything that it removes is known to be an entry. -/
theorem Sound.exists_build_iff (h : builder.Sound) :
    (∃ result, builder.build = .ok result) ↔ builder.IsKnown := by
  constructor
  · rintro ⟨result, hbuild⟩ phase pending hpending
    rw [h.build_iff.1 hbuild] at hpending
    cases phase <;>
    · obtain ⟨entry, -, rfl⟩ := List.mem_map.1 hpending
      rfl
  · intro hknown
    obtain ⟨selector, hroot⟩ := h.root
    refine ⟨⟨selector, ⟨builder.start.filterMap PendingEntry.known?,
      builder.finish.filterMap PendingEntry.known?⟩, builder.blocks, builder.transformers⟩,
      h.build_iff.2 ?_⟩
    have hstart : (builder.start.filterMap PendingEntry.known?).map .checked = builder.start :=
      map_checked_filterMap (hknown .start)
    have hfinish : (builder.finish.filterMap PendingEntry.known?).map .checked = builder.finish :=
      map_checked_filterMap (hknown .finish)
    simp only [holding, hstart, hfinish, ← hroot]

/-! ### Adding an entry -/

variable {phase : CleanupPhase} {pending : PendingEntry}

theorem entries_addEntry (builder : RuleBuilder) (phase other : CleanupPhase)
    (pending : PendingEntry) :
    (builder.addEntry phase pending).entries other =
      if other = phase then insertNew PendingEntry.same (builder.entries phase) pending
      else builder.entries other := by
  cases phase <;> cases other <;> rfl

theorem addEntry_of_holds (h : builder.holds phase pending = true) :
    builder.addEntry phase pending = builder := by
  cases phase <;>
  · rw [holds, entries] at h
    rw [addEntry, insertNew, if_pos h]

theorem length_addEntry_of_not_holds (h : builder.holds phase pending = false) :
    ((builder.addEntry phase pending).entries phase).length = (builder.entries phase).length + 1 := by
  rw [holds] at h
  rw [entries_addEntry, if_pos rfl, insertNew, h]
  simp

theorem Sound.addEntry (h : builder.Sound) (hpending : pending.IsSettled) :
    (builder.addEntry phase pending).Sound := by
  refine ⟨?_, fun other => ?_, fun other => ?_⟩
  · cases phase <;> exact h.root
  · rw [entries_addEntry]
    split
    · rw [insertNew]
      split
      · exact h.settled phase
      · simpa [or_imp, forall_and] using ⟨h.settled phase, hpending⟩
    · exact h.settled other
  · rw [entries_addEntry]
    split
    · exact PendingEntry.nodup_insertNew_same (h.distinct phase)
    · exact h.distinct other

theorem isKnown_addEntry :
    (builder.addEntry phase pending).IsKnown ↔ builder.IsKnown ∧ pending.known?.isSome := by
  have hphase : (∀ other ∈ insertNew PendingEntry.same (builder.entries phase) pending,
      other.known?.isSome) ↔ (∀ other ∈ builder.entries phase, other.known?.isSome) ∧
        pending.known?.isSome := PendingEntry.forall_mem_insertNew_same
  constructor
  · intro hall
    have hadded := hall phase
    rw [entries_addEntry, if_pos rfl] at hadded
    refine ⟨fun other => ?_, (hphase.1 hadded).2⟩
    by_cases hother : other = phase
    · exact hother ▸ (hphase.1 hadded).1
    · have hkept := hall other
      rwa [entries_addEntry, if_neg hother] at hkept
  · rintro ⟨hknown, hsome⟩ other
    rw [entries_addEntry]
    split
    · exact hphase.2 ⟨hknown phase, hsome⟩
    · exact hknown other

/-! ### Adding entries one by one -/

/-- Adds entries to the phases in which they are removed. -/
def addAll (builder : RuleBuilder) (taken : List (CleanupPhase × PendingEntry)) : RuleBuilder :=
  taken.foldl (fun builder item => builder.addEntry item.1 item.2) builder

variable {taken : List (CleanupPhase × PendingEntry)}

theorem addAll_cons (item : CleanupPhase × PendingEntry) :
    builder.addAll (item :: taken) = (builder.addEntry item.1 item.2).addAll taken := rfl

theorem length_le_addAll (phase : CleanupPhase) :
    (builder.entries phase).length ≤ ((builder.addAll taken).entries phase).length := by
  induction taken generalizing builder with
  | nil => exact Nat.le_refl _
  | cons item taken ih =>
    refine Nat.le_trans ?_ ih
    rw [entries_addEntry, insertNew]
    split
    · next heq =>
      subst heq
      split <;> simp
    · exact Nat.le_refl _

/-- Added entries change a builder unless it holds each of them. -/
theorem addAll_eq_self_iff :
    builder.addAll taken = builder ↔ ∀ item ∈ taken, builder.holds item.1 item.2 = true := by
  induction taken with
  | nil => simp [addAll]
  | cons item taken ih =>
    rw [addAll_cons, List.forall_mem_cons]
    cases hholds : builder.holds item.1 item.2 with
    | true =>
      rw [addEntry_of_holds hholds, ih]
      simp
    | false =>
      simp only [Bool.false_eq_true, false_and, iff_false]
      intro heq
      have hmore : ((builder.addEntry item.1 item.2).entries item.1).length ≤
          (((builder.addEntry item.1 item.2).addAll taken).entries item.1).length :=
        length_le_addAll item.1
      rw [heq, length_addEntry_of_not_holds hholds] at hmore
      omega

theorem Sound.addAll (h : builder.Sound) (htaken : ∀ item ∈ taken, item.2.IsSettled) :
    (builder.addAll taken).Sound := by
  induction taken generalizing builder with
  | nil => exact h
  | cons item taken ih =>
    obtain ⟨hitem, hrest⟩ := List.forall_mem_cons.1 htaken
    exact ih (h.addEntry hitem) hrest

theorem isKnown_addAll :
    (builder.addAll taken).IsKnown ↔
      builder.IsKnown ∧ ∀ item ∈ taken, item.2.known?.isSome := by
  induction taken generalizing builder with
  | nil => simp [RuleBuilder.addAll]
  | cons item taken ih => rw [addAll_cons, ih, isKnown_addEntry, List.forall_mem_cons, and_assoc]

theorem blocks_addAll : (builder.addAll taken).blocks = builder.blocks := by
  induction taken generalizing builder with
  | nil => rfl
  | cons item taken ih =>
    rw [addAll_cons, ih]
    cases item.1 <;> rfl

theorem transformers_addAll : (builder.addAll taken).transformers = builder.transformers := by
  induction taken generalizing builder with
  | nil => rfl
  | cons item taken ih =>
    rw [addAll_cons, ih]
    cases item.1 <;> rfl

/-! ### Transformers -/

/-- The names of transformers are told by their names alone: a new one goes to the end. -/
theorem names_replaceNamed (rule : TransformRule) (rules : List TransformRule) :
    (replaceNamed rule rules).map (·.name) =
      insertNew (fun a b => decide (a = b)) (rules.map (·.name)) rule.name := by
  induction rules with
  | nil => rfl
  | cons other rules ih =>
    by_cases h : other.name = rule.name
    · simp [replaceNamed, insertNew, h]
    · have hne : rule.name ≠ other.name := Ne.symm h
      rw [replaceNamed, if_neg h, List.map_cons, ih]
      simp only [insertNew, List.map_cons, List.any_cons, hne, decide_false, Bool.false_or]
      split <;> rfl

theorem nodup_insertNew_iff [DecidableEq α] {items : List α} {item : α} :
    (insertNew (fun a b => decide (a = b)) items item).Nodup ↔ items.Nodup := by
  refine ⟨fun h => ?_, fun h => nodup_insertNew h item⟩
  rw [insertNew] at h
  split at h
  · exact h
  · exact (List.nodup_append.1 h).1

end RuleBuilder

/-! ## Calls -/

/-- A call that gives plain data to a builder. -/
inductive BuilderCall where
  | setRoot (selector : Option String)
  | addCleanup (selectors phase : Json)
  | addBlock (rule : Json)
  | addTransformer (rule : Json)
deriving Repr

namespace BuilderCall

/-- The outcome of a call and the builder after it.  A rule is checked before it is added. -/
def run (builder : RuleBuilder) : BuilderCall → Except BuilderFault Unit × RuleBuilder
  | .setRoot selector => (.ok (), builder.setRoot (textOrNullJson selector))
  | .addCleanup selectors phase => builder.addCleanup selectors phase
  | .addBlock rule =>
    match BlockDraft.check rule with
    | .ok draft => (.ok (), builder.addBlock draft)
    | .error issues => (.error (.issues issues), builder)
  | .addTransformer rule =>
    match TransformRule.check rule with
    | .ok rule => (.ok (), builder.addTransformer rule)
    | .error issues => (.error (.issues issues), builder)

/-- The builder after a series of calls, those that fail among them. -/
def runAll (builder : RuleBuilder) (calls : List BuilderCall) : RuleBuilder :=
  calls.foldl (fun builder call => (call.run builder).2) builder

/-- The entries of a list that stand in front of the first one with issues. -/
def leading : List Json → List PendingEntry
  | [] => []
  | value :: values =>
    match PendingEntry.ofJson value with
    | .error _ => []
    | .ok entry => entry :: leading values

/-- What a call takes of the entries that it is given. -/
def taken : BuilderCall → List (CleanupPhase × PendingEntry)
  | .addCleanup selectors phase =>
    match CleanupPhase.ofJson phase, selectors with
    | .ok phase, .list values => (leading values).map (phase, ·)
    | .ok phase, .text content => (leading [.text content]).map (phase, ·)
    | .ok phase, .object fields => (leading [.object fields]).map (phase, ·)
    | _, _ => []
  | _ => []

variable {builder : RuleBuilder}

theorem isSettled_of_mem_leading {values : List Json} {pending : PendingEntry}
    (h : pending ∈ leading values) : pending.IsSettled := by
  induction values with
  | nil => cases h
  | cons value values ih =>
    rw [leading] at h
    split at h
    · cases h
    next hentry =>
    obtain rfl | h := List.mem_cons.1 h
    · exact PendingEntry.isSettled_of_ofJson hentry
    · exact ih h

theorem isSettled_of_mem_taken {call : BuilderCall} {item : CleanupPhase × PendingEntry}
    (h : item ∈ call.taken) : item.2.IsSettled := by
  unfold taken at h
  split at h
  · split at h
    all_goals first
      | cases h; done
      | obtain ⟨pending, hpending, rfl⟩ := List.mem_map.1 h
        exact isSettled_of_mem_leading hpending
  · cases h

theorem addEntries_eq_addAll (builder : RuleBuilder) (phase : CleanupPhase) (values : List Json) :
    (builder.addEntries phase values).2 = builder.addAll ((leading values).map (phase, ·)) := by
  induction values generalizing builder with
  | nil => rfl
  | cons value values ih =>
    cases hentry : PendingEntry.ofJson value with
    | error issues => simp [addEntries, leading, hentry, addAll]
    | ok pending => simp [addEntries, leading, hentry, ih, addAll]

theorem addCleanup_eq_addAll (builder : RuleBuilder) (selectors phase : Json) :
    (builder.addCleanup selectors phase).2 = builder.addAll (addCleanup selectors phase).taken := by
  unfold RuleBuilder.addCleanup
  cases hphase : CleanupPhase.ofJson phase with
  | error fault => simp [taken, hphase, addAll]
  | ok phase =>
    cases selectors <;> simp [taken, hphase, addEntries_eq_addAll, addAll]

/-- A call, whether it fails or not, leaves a sound builder. -/
theorem sound_run (h : builder.Sound) (call : BuilderCall) : (call.run builder).2.Sound := by
  cases call with
  | setRoot selector => exact ⟨⟨selector, rfl⟩, h.settled, h.distinct⟩
  | addCleanup selectors phase =>
    rw [run, addCleanup_eq_addAll]
    exact h.addAll fun _ => isSettled_of_mem_taken
  | addBlock rule =>
    rw [run]
    split
    · exact ⟨h.root, h.settled, h.distinct⟩
    · exact h
  | addTransformer rule =>
    rw [run]
    split
    · exact ⟨h.root, h.settled, h.distinct⟩
    · exact h

theorem sound_runAll (h : builder.Sound) (calls : List BuilderCall) : (runAll builder calls).Sound := by
  induction calls generalizing builder with
  | nil => exact h
  | cons call calls ih => exact ih (sound_run h call)

/-! ## Calls that fail and calls that return -/

theorem isKnown_run (builder : RuleBuilder) (call : BuilderCall) :
    (call.run builder).2.IsKnown ↔
      builder.IsKnown ∧ ∀ item ∈ call.taken, item.2.known?.isSome := by
  cases call with
  | setRoot selector => simp [run, taken, IsKnown, RuleBuilder.setRoot, entries]
  | addCleanup selectors phase => rw [run, addCleanup_eq_addAll, isKnown_addAll]
  | addBlock rule =>
    rw [run]
    split <;> simp [taken, IsKnown, RuleBuilder.addBlock, entries]
  | addTransformer rule =>
    rw [run]
    split <;> simp [taken, IsKnown, RuleBuilder.addTransformer, entries]

theorem isKnown_runAll (builder : RuleBuilder) (calls : List BuilderCall) :
    (runAll builder calls).IsKnown ↔
      builder.IsKnown ∧ ∀ call ∈ calls, ∀ item ∈ call.taken, item.2.known?.isSome := by
  induction calls generalizing builder with
  | nil => simp [runAll]
  | cons call calls ih =>
    have hstep : runAll builder (call :: calls) = runAll (call.run builder).2 calls := rfl
    rw [hstep, ih, isKnown_run, List.forall_mem_cons, and_assoc]

/-- A call that fails leaves the entries that it took. -/
theorem run_of_error {call : BuilderCall} {fault : BuilderFault}
    (h : (call.run builder).1 = .error fault) :
    (call.run builder).2 = builder.addAll call.taken := by
  cases call with
  | setRoot selector => cases h
  | addCleanup selectors phase => exact addCleanup_eq_addAll builder selectors phase
  | addBlock rule =>
    rw [run] at h ⊢
    split at h
    · cases h
    · rfl
  | addTransformer rule =>
    rw [run] at h ⊢
    split at h
    · cases h
    · rfl

/-- After any series of calls, a call that fails leaves the builder as it is unless it took an entry
that the builder does not hold, and after one that returns there is a document unless this call or one
before it took data that is no entry. -/
theorem run_keeps_or_builds (document : RuleDocument) (calls : List BuilderCall)
    (call : BuilderCall) :
    (∀ fault, (call.run (runAll (ofDocument document) calls)).1 = .error fault →
      ((call.run (runAll (ofDocument document) calls)).2 = runAll (ofDocument document) calls ↔
        ∀ item ∈ call.taken, (runAll (ofDocument document) calls).holds item.1 item.2 = true)) ∧
    ((call.run (runAll (ofDocument document) calls)).1 = .ok () →
      ((∃ result, (call.run (runAll (ofDocument document) calls)).2.build = .ok result) ↔
        ∀ earlier ∈ calls ++ [call], ∀ item ∈ earlier.taken, item.2.known?.isSome)) := by
  constructor
  · intro fault hfails
    rw [run_of_error hfails]
    exact addAll_eq_self_iff
  · intro _
    have hsound := sound_runAll (sound_ofDocument document) calls
    have hknown : (ofDocument document).IsKnown :=
      (sound_ofDocument document).exists_build_iff.1 ⟨_, ofDocument_eq document ▸ build_holding _⟩
    rw [(sound_run hsound call).exists_build_iff, isKnown_run, isKnown_runAll]
    simp [hknown, or_imp, forall_and]

/-- A list of entries of which the second one makes no sense fails with the first one taken, and a
number is taken for an entry, so that there is no document to follow. -/
theorem addCleanup_half_done :
    (∃ fault, (run (ofDocument .standard) (.addCleanup
        (.list [.text "nav", .object [("value", .text "x")]]) (.text "start"))).1 = .error fault ∧
      (run (ofDocument .standard) (.addCleanup
        (.list [.text "nav", .object [("value", .text "x")]]) (.text "start"))).2 ≠
          ofDocument .standard) ∧
    (run (ofDocument .standard) (.addCleanup (.list [.integer 1]) (.text "start"))).1 = .ok () ∧
      ¬∃ result, (run (ofDocument .standard)
        (.addCleanup (.list [.integer 1]) (.text "start"))).2.build = .ok result := by
  refine ⟨⟨_, rfl, fun heq => ?_⟩, rfl, ?_⟩
  · have hlength := congrArg (fun builder => builder.start.length) heq
    revert hlength
    decide
  · rintro ⟨result, hbuild⟩
    cases hbuild

/-! ## What is there once -/

theorem nodup_types_run (builder : RuleBuilder) (call : BuilderCall) :
    ((call.run builder).2.blocks.map (·.type)).Nodup ↔ (builder.blocks.map (·.type)).Nodup := by
  cases call with
  | setRoot selector => rfl
  | addCleanup selectors phase =>
    rw [run, addCleanup_eq_addAll, blocks_addAll]
  | addBlock rule =>
    rw [run]
    split
    · rw [RuleBuilder.addBlock, types_mergeInto, nodup_insertNew_iff]
    · rfl
  | addTransformer rule =>
    rw [run]
    split <;> rfl

theorem nodup_names_run (builder : RuleBuilder) (call : BuilderCall) :
    ((call.run builder).2.transformers.map (·.name)).Nodup ↔
      (builder.transformers.map (·.name)).Nodup := by
  cases call with
  | setRoot selector => rfl
  | addCleanup selectors phase =>
    rw [run, addCleanup_eq_addAll, transformers_addAll]
  | addBlock rule =>
    rw [run]
    split <;> rfl
  | addTransformer rule =>
    rw [run]
    split
    · rw [RuleBuilder.addTransformer, names_replaceNamed, nodup_insertNew_iff]
    · rfl

theorem nodup_runAll (builder : RuleBuilder) (calls : List BuilderCall) :
    (((runAll builder calls).blocks.map (·.type)).Nodup ↔ (builder.blocks.map (·.type)).Nodup) ∧
      (((runAll builder calls).transformers.map (·.name)).Nodup ↔
        (builder.transformers.map (·.name)).Nodup) := by
  induction calls generalizing builder with
  | nil => exact ⟨.rfl, .rfl⟩
  | cons call calls ih =>
    obtain ⟨htypes, hnames⟩ := ih (call.run builder).2
    exact ⟨htypes.trans (nodup_types_run builder call), hnames.trans (nodup_names_run builder call)⟩

/-- In the document of a builder each entry is there once, and so are the types of blocks and the
names of transformers exactly when they were so in the document that the builder started from. -/
theorem build_distinct {document result : RuleDocument} {calls : List BuilderCall}
    (h : (runAll (ofDocument document) calls).build = .ok result) :
    result.cleanup.IsDistinct ∧
      ((result.blocks.map (·.type)).Nodup ↔ (document.blocks.map (·.type)).Nodup) ∧
      ((result.transformers.map (·.name)).Nodup ↔ (document.transformers.map (·.name)).Nodup) := by
  have hsound := sound_runAll (sound_ofDocument document) calls
  have hnodup := nodup_runAll (ofDocument document) calls
  have hdistinct := hsound.distinct
  rw [hsound.build_iff.1 h] at hnodup hdistinct
  refine ⟨⟨?_, ?_⟩, hnodup⟩
  · exact filterMap_known?_checked result.cleanup.start ▸ hdistinct .start
  · exact filterMap_known?_checked result.cleanup.finish ▸ hdistinct .finish

/-- A rule that is told again, and a selector that is. -/
theorem build_distinct_told_again :
    ∃ result, (runAll (ofDocument .standard) [.addBlock (.object [("type", .text "note")]),
        .addCleanup (.list [.text "nav", .text "nav"]) (.text "end"),
        .addBlock (.object [("type", .text "note")])]).build = .ok result ∧
      result.cleanup.finish.Nodup ∧ (result.blocks.map (·.type)).Nodup := by
  have hbuild : (runAll (ofDocument .standard) [.addBlock (.object [("type", .text "note")]),
      .addCleanup (.list [.text "nav", .text "nav"]) (.text "end"),
      .addBlock (.object [("type", .text "note")])]).build =
        .ok ⟨some "main", ⟨[], [.selector "nav"]⟩, [⟨"note", [], [], none, [], .replace⟩], []⟩ := rfl
  obtain ⟨hcleanup, htypes, -⟩ := build_distinct hbuild
  exact ⟨_, hbuild, hcleanup.2, htypes.2 List.nodup_nil⟩

/-- A document that lists a type twice still does so after a call that returned. -/
theorem listed_twice_stays :
    (run (ofDocument ⟨none, .none, [⟨"note", [], [], none, [], .replace⟩,
        ⟨"note", [], [], none, [], .replace⟩], []⟩) (.setRoot (some "main"))).1 = .ok () ∧
      ∃ result, (runAll (ofDocument ⟨none, .none, [⟨"note", [], [], none, [], .replace⟩,
          ⟨"note", [], [], none, [], .replace⟩], []⟩) [.setRoot (some "main")]).build = .ok result ∧
        ¬(result.blocks.map (·.type)).Nodup :=
  ⟨rfl, _, rfl, by decide⟩

end BuilderCall

end PageBlocks
