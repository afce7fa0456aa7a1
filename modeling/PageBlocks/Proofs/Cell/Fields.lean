import PageBlocks.Proofs.Cell.Container
/-!
# Fields apart from each other

Fields are built one after another, and each takes the elements that it holds out of the page, so that
the fields after it see a page without them.  A field comes to what it would come to on its own as long
as its selectors look at nothing but elements on their own and those around them, and nothing that it
finds or reads is taken by a field before it, or holds anything that is.

## Main results

* `Cell.fieldPieces_eq` — a field yields the same on a page that gave away nothing that it reads.
* `Cell.sheds_buildFields` — fields take elements below the scope, and change nothing else.
* `Cell.fieldMarkup_apart` — fields that are apart come to what each of them comes to on its own.
* `Cell.same_element_twice` — two fields that want the same element do not.
-/

namespace PageBlocks

open Dom

namespace Cell

variable {scope : NodeId} {gone more : List NodeId} {dom before after : Dom} {tag : Tag}
  {sanitize : Sanitize.Sanitizer} {value : Value}

/-! ## What fields come to -/

/-- The markup inside a node. -/
def held (dom : Dom) (id : NodeId) : String :=
  ((dom.find? id).map Node.innerMarkup).getD ""

/-- The names of fields, each with the markup in its container, or a fault. -/
def fieldMarkup (dom : Dom) (scope : NodeId) (sanitize : Sanitize.Sanitizer)
    (fields : List (String × Value)) : Except CellFault (List (String × String)) :=
  (buildFields dom scope sanitize fields).1.map fun built =>
    built.map fun (name, id) => (name, held (buildFields dom scope sanitize fields).2 id)

/-- The nodes of the page that a field takes when it is built on its own: those that are in its
container afterwards. -/
def taken (dom : Dom) (scope : NodeId) (sanitize : Sanitize.Sanitizer) (value : Value) :
    List NodeId :=
  match buildField dom scope sanitize value with
  | .ok (some container, after) => dom.roots.ids.filter fun x => decide (after.IsBelow container x)
  | _ => []

/-- The cell and the changes to text that a field is told by, if one of its conditions is met. -/
def chosen? (dom : Dom) (scope : NodeId) : Value → Except CellFault (Option (Value × Value))
  | .list entries => chooseEntry dom scope entries
  | cell => .ok (some (cell, .null))

/-- The conditions of entries that are asked in turn, up to the first that is met. -/
def asked (dom : Dom) (scope : NodeId) : List Value → List String
  | [] => []
  | entry :: entries =>
    if entry.isPresent then
      match entryParts entry with
      | .error _ => []
      | .ok parts =>
        match parts[0]?.getD .null with
        | .text condition =>
          condition ::
            if (dom.selectFirst? scope condition).isSome then [] else asked dom scope entries
        | _ => asked dom scope entries
    else asked dom scope entries

/-- The conditions of a field that are asked. -/
def conditions (dom : Dom) (scope : NodeId) : Value → List String
  | .list entries => asked dom scope entries
  | _ => []

/-- The specs that a field is told by. -/
def specs (dom : Dom) (scope : NodeId) (value : Value) : List Value :=
  match chosen? dom scope value with
  | .ok (some (cell, _)) => cell.itemsOrSelf
  | _ => []

/-- Does a field look up only, and are some nodes neither among what it finds and reads nor around it,
nor inside what it reads? -/
def Untouched (dom : Dom) (scope : NodeId) (gone : List NodeId) (value : Value) : Prop :=
  (∀ condition ∈ conditions dom scope value,
    (Selector.parse? condition.toList).all Selector.looksUp = true ∧
      ∀ y ∈ (dom.selectFirst? scope condition).toList, IsOutside dom gone y) ∧
  ∀ spec ∈ specs dom scope value,
    looksUp spec = true ∧ ∀ y ∈ reads dom scope spec, IsApart dom gone y

instance (dom : Dom) (scope : NodeId) (gone : List NodeId) (value : Value) :
    Decidable (Untouched dom scope gone value) :=
  inferInstanceAs (Decidable (_ ∧ _))

/-- Does a field take nothing, or nothing that concerns a later one? -/
def Apart (dom : Dom) (scope : NodeId) (sanitize : Sanitize.Sanitizer)
    (first second : String × Value) : Prop :=
  taken dom scope sanitize first.2 = [] ∨
    Untouched dom scope (taken dom scope sanitize first.2) second.2

instance (dom : Dom) (scope : NodeId) (sanitize : Sanitize.Sanitizer) (first second : String × Value) :
    Decidable (Apart dom scope sanitize first second) :=
  inferInstanceAs (Decidable (_ ∨ _))

theorem Untouched.of_subset (h : Untouched dom scope more value) (hsub : gone ⊆ more) :
    Untouched dom scope gone value :=
  ⟨fun condition hc => ⟨(h.1 condition hc).1, fun y hy k hk => (h.1 condition hc).2 y hy k (hsub hk)⟩,
    fun spec hs => ⟨(h.2 spec hs).1, fun y hy =>
      ⟨fun k hk => ((h.2 spec hs).2 y hy).1 k (hsub hk),
        fun k hk => ((h.2 spec hs).2 y hy).2 k (hsub hk)⟩⟩⟩

theorem Untouched.append (h : Untouched dom scope gone value) (h' : Untouched dom scope more value) :
    Untouched dom scope (gone ++ more) value := by
  refine ⟨fun condition hc => ⟨(h.1 condition hc).1, fun y hy k hk => ?_⟩,
    fun spec hs => ⟨(h.2 spec hs).1, fun y hy => ⟨fun k hk => ?_, fun k hk => ?_⟩⟩⟩
  · exact (List.mem_append.1 hk).elim ((h.1 condition hc).2 y hy k) ((h'.1 condition hc).2 y hy k)
  · exact (List.mem_append.1 hk).elim (((h.2 spec hs).2 y hy).1 k) (((h'.2 spec hs).2 y hy).1 k)
  · exact (List.mem_append.1 hk).elim (((h.2 spec hs).2 y hy).2 k) (((h'.2 spec hs).2 y hy).2 k)

/-! ## The pieces of a field -/

/-- The pieces that a field yields, if one of its conditions is met. -/
def fieldPieces (dom : Dom) (scope : NodeId) (sanitize : Sanitize.Sanitizer) (value : Value) :
    Except CellFault (Option (List Piece)) :=
  match chosen? dom scope value with
  | .error fault => .error fault
  | .ok none => .ok none
  | .ok (some (cell, params)) => (cellPieces dom scope cell params sanitize).map some

/-- The markup that pieces come to in a container of their own. -/
def pieceMarkup (dom : Dom) (all : List Piece) : String :=
  String.join (contents (fun id =>
    ((dom.find? id).map fun node => (node.prune (kept all)).markup).getD "") all)

section

variable (h : Sheds scope gone before after) (wf : before.WellFormed)
  (htag : before.tag? scope = some tag) (hdocument : tag.isDocument = false)

include h wf htag hdocument

theorem selectFirst?_eq (condition : String)
    (hs : gone = [] ∨ (Selector.parse? condition.toList).all Selector.looksUp = true ∧
      ∀ y ∈ (before.selectFirst? scope condition).toList, IsOutside before gone y) :
    after.selectFirst? scope condition = before.selectFirst? scope condition := by
  simp only [selectFirst?, selectText] at hs ⊢
  cases hparse : Selector.parse? condition.toList with
  | none => rfl
  | some selector =>
    simp only [hparse] at hs
    exact head?_select_eq h wf htag hdocument selector
      (hs.imp_right fun hs => ⟨hs.1, fun y hy => hs.2 y (Option.mem_toList.2 hy)⟩)

/-- The same entry is chosen when no condition that is asked met what was given away. -/
theorem chooseEntry_eq_of_untouched {entries : List Value}
    (hs : gone = [] ∨ ∀ condition ∈ asked before scope entries,
      (Selector.parse? condition.toList).all Selector.looksUp = true ∧
        ∀ y ∈ (before.selectFirst? scope condition).toList, IsOutside before gone y) :
    chooseEntry after scope entries = chooseEntry before scope entries := by
  induction entries with
  | nil => rfl
  | cons entry entries ih =>
    rw [chooseEntry, chooseEntry]
    by_cases hpresent : entry.isPresent = true
    · rw [if_pos hpresent, if_pos hpresent]
      cases hparts : entryParts entry with
      | error fault => rfl
      | ok parts =>
        dsimp only
        cases hfirst : parts[0]?.getD .null with
        | text condition =>
          have hasked : asked before scope (entry :: entries) = condition ::
              if (before.selectFirst? scope condition).isSome then []
              else asked before scope entries := by
            rw [asked, if_pos hpresent, hparts]
            simp only [hfirst]
          rw [hasked] at hs
          have hsame := selectFirst?_eq h wf htag hdocument condition
            (hs.imp_right fun hs => hs condition List.mem_cons_self)
          have hmet : isMet after scope (.text condition) = isMet before scope (.text condition) := by
            rw [isMet, isMet, hsame]
          rw [hmet]
          by_cases hfound : isMet before scope (.text condition) = true
          · rw [if_pos hfound, if_pos hfound]
          · rw [if_neg hfound, if_neg hfound]
            have hnone : ¬(before.selectFirst? scope condition).isSome = true := hfound
            refine ih (hs.imp_right fun hs other hother => hs other ?_)
            rw [if_neg hnone]
            exact List.mem_cons_of_mem _ hother
        | null | bool _ | integer _ | decimal _ | element _ | list _ | config _ =>
          have hasked : asked before scope (entry :: entries) = asked before scope entries := by
            rw [asked, if_pos hpresent, hparts]
            simp only [hfirst]
          rw [hasked] at hs
          exact ih hs
    · have hasked : asked before scope (entry :: entries) = asked before scope entries := by
        rw [asked, if_neg hpresent]
      rw [hasked] at hs
      rw [if_neg hpresent, if_neg hpresent]
      exact ih hs

/-- A field yields the same on a page that gave away nothing that it finds or reads. -/
theorem fieldPieces_eq (sanitize : Sanitize.Sanitizer) (hs : gone = [] ∨ Untouched before scope gone value) :
    fieldPieces after scope sanitize value = fieldPieces before scope sanitize value := by
  have hchosen : chosen? after scope value = chosen? before scope value := by
    cases value with
    | list entries => exact chooseEntry_eq_of_untouched h wf htag hdocument (hs.imp_right And.left)
    | null | bool _ | integer _ | decimal _ | text _ | element _ | config _ => rfl
  rw [fieldPieces, fieldPieces, hchosen]
  cases hcase : chosen? before scope value with
  | error fault => rfl
  | ok choice =>
    cases choice with
    | none => rfl
    | some choice =>
      obtain ⟨cell, params⟩ := choice
      have hspecs : specs before scope value = cell.itemsOrSelf := by rw [specs, hcase]
      refine congrArg (Except.map some) ?_
      rw [cellPieces, cellPieces]
      split
      · cases readParams params with
        | error fault => rfl
        | ok changes =>
          refine pieces_eq h wf htag hdocument (hs.imp_right fun hs => ?_)
          rw [← hspecs]
          exact hs.2
      · rfl

end

/-! ## One field -/

theorem elements_of_entryParts {entry : Value} {parts : List Value} (hentry : entry.elements = [])
    (h : entryParts entry = .ok parts) : ∀ part ∈ parts, part.elements = [] := by
  intro part hpart
  cases entry with
  | list items =>
    cases h
    refine List.eq_nil_iff_forall_not_mem.2 fun id hid => ?_
    have hin : id ∈ (Value.list parts).elements := Value.mem_elementsOfItems.2 ⟨part, hpart, hid⟩
    rw [hentry] at hin
    exact List.not_mem_nil hin
  | text content =>
    cases h
    obtain ⟨c, -, rfl⟩ := List.mem_map.1 hpart
    rfl
  | null | bool _ | integer _ | decimal _ | element _ | config _ => cases h

theorem elements_getD {parts : List Value} (h : ∀ part ∈ parts, part.elements = []) (i : Nat) :
    (parts[i]?.getD .null).elements = [] := by
  cases hi : parts[i]? with
  | none => rfl
  | some part => exact h part (List.mem_of_getElem? hi)

theorem elements_of_chooseEntry {entries : List Value} {cell params : Value}
    (hentries : ∀ entry ∈ entries, entry.elements = [])
    (h : chooseEntry dom scope entries = .ok (some (cell, params))) : cell.elements = [] := by
  obtain ⟨entry, hentry, parts, hparts, rfl⟩ := exists_of_chooseEntry h
  exact elements_getD (elements_of_entryParts (hentries entry hentry) hparts) 1

theorem elements_of_items {items : List Value} (h : (Value.list items).elements = []) :
    ∀ item ∈ items, item.elements = [] := by
  intro item hitem
  refine List.eq_nil_iff_forall_not_mem.2 fun id hid => ?_
  have hin : id ∈ (Value.list items).elements := Value.mem_elementsOfItems.2 ⟨item, hitem, hid⟩
  rw [h] at hin
  exact List.not_mem_nil hin

/-- The elements that a field names are found by its selectors. -/
theorem exists_select_of_fieldPieces {all : List Piece} (hvalue : value.elements = [])
    (h : fieldPieces dom scope sanitize value = .ok (some all)) {id : NodeId} (hid : id ∈ kept all) :
    ∃ text marked selector, .text text ∈ specs dom scope value ∧
      CellSpec.parse text.toList = .selector marked selector ∧ id ∈ dom.select scope selector := by
  rw [fieldPieces] at h
  cases hcase : chosen? dom scope value with
  | error fault => rw [hcase] at h; cases h
  | ok choice =>
    rw [hcase] at h
    cases choice with
    | none => cases h
    | some choice =>
      obtain ⟨cell, params⟩ := choice
      have hcell : cell.elements = [] := by
        cases value with
        | list entries => exact elements_of_chooseEntry (elements_of_items hvalue) hcase
        | null | bool _ | integer _ | decimal _ | text _ | element _ | config _ =>
          cases hcase
          exact hvalue
      have hspecs : ∀ spec ∈ cell.itemsOrSelf, spec.elements = [] := by
        cases cell with
        | list items => exact elements_of_items hcell
        | null | bool _ | integer _ | decimal _ | text _ | element _ | config _ =>
          intro spec hspec
          rw [List.mem_singleton.1 hspec]
          exact hcell
      obtain ⟨_, hpieces, heq⟩ := exists_of_map_eq_ok h
      cases heq
      rw [cellPieces] at hpieces
      split at hpieces
      · split at hpieces
        · cases hpieces
        · rw [specs, hcase]
          exact exists_select_of_kept hspecs hpieces hid
      · cases hpieces
        exact absurd hid List.not_mem_nil

/-- The elements that a field names are among what it reads. -/
theorem exists_reads_of_kept {all : List Piece} (hvalue : value.elements = [])
    (h : fieldPieces dom scope sanitize value = .ok (some all)) {id : NodeId} (hid : id ∈ kept all) :
    ∃ spec ∈ specs dom scope value, id ∈ reads dom scope spec := by
  obtain ⟨text, marked, selector, hspec, hparse, hin⟩ := exists_select_of_fieldPieces hvalue h hid
  refine ⟨_, hspec, ?_⟩
  rw [reads, hparse]
  exact List.mem_flatMap.2 ⟨id, hin, List.mem_cons_self⟩

section

variable (wf : dom.WellFormed) (htag : dom.tag? scope = some tag) (hdocument : tag.isDocument = false)

include wf

theorem isBelow_of_fieldPieces {all : List Piece} (hvalue : value.elements = [])
    (h : fieldPieces dom scope sanitize value = .ok (some all)) :
    ∀ id ∈ kept all, dom.IsBelow scope id := by
  intro id hid
  obtain ⟨text, marked, selector, -, -, hin⟩ := exists_select_of_fieldPieces hvalue h hid
  exact (isBelow_of_mem_select wf hin).1

/-- What the container of a field holds. -/
theorem held_filled (hscope : dom.Has scope) {all : List Piece} (hbelow : ∀ id ∈ kept all, dom.IsBelow scope id) :
    held (filled dom all) dom.fresh = pieceMarkup dom all := by
  have hinner := innerMarkup_filled wf hscope fun id hid => (hbelow id hid).has_right
  rw [held, hinner, pieceMarkup, Option.getD_some]
  refine congrArg String.join (contents_congr fun id hid => ?_)
  rw [shown, (sheds_filled wf hscope hbelow).find?_eq wf (hbelow id hid).has_right, Option.map_map]
  rfl

include htag hdocument

/-- A field is told by the pieces that it yields. -/
theorem buildField_eq (sanitize : Sanitize.Sanitizer) (value : Value) :
    buildField dom scope sanitize value =
      (fieldPieces dom scope sanitize value).map fun pieces =>
        match pieces with
        | none => (none, dom)
        | some all => (some dom.fresh, filled dom all) := by
  have hcontainer (cell params : Value) :
      (buildContainer dom scope cell params sanitize).map (fun built =>
          (some built.1, built.2)) =
        ((cellPieces dom scope cell params sanitize).map some).map fun pieces =>
          match pieces with
          | none => (none, dom)
          | some all => (some dom.fresh, filled dom all) := by
    rw [buildContainer_eq wf htag hdocument]
    cases cellPieces dom scope cell params sanitize <;> rfl
  by_cases hlist : ∃ entries, value = .list entries
  · obtain ⟨entries, rfl⟩ := hlist
    rw [buildField, fieldPieces, chosen?]
    cases chooseEntry dom scope entries with
    | error fault => rfl
    | ok choice =>
      cases choice with
      | none => rfl
      | some choice => exact hcontainer choice.1 choice.2
  · have hleft : buildField dom scope sanitize value =
        (buildContainer dom scope value .null sanitize).map fun built =>
          (some built.1, built.2) := by
      cases value with
      | list entries => exact absurd ⟨entries, rfl⟩ hlist
      | null | bool _ | integer _ | decimal _ | text _ | element _ | config _ => rfl
    have hright : fieldPieces dom scope sanitize value =
        (cellPieces dom scope value .null sanitize).map some := by
      cases value with
      | list entries => exact absurd ⟨entries, rfl⟩ hlist
      | null | bool _ | integer _ | decimal _ | text _ | element _ | config _ => rfl
    rw [hleft, hright, hcontainer]

/-- What a field names, and all that was inside, is taken. -/
theorem mem_taken_of_kept {all : List Piece} (hvalue : value.elements = [])
    (h : fieldPieces dom scope sanitize value = .ok (some all)) {id x : NodeId} (hid : id ∈ kept all)
    (hx : id = x ∨ dom.IsBelow id x) : x ∈ taken dom scope sanitize value := by
  have hbelow := isBelow_of_fieldPieces wf hvalue h
  have hscope := has_of_tag? htag
  have hsheds := sheds_filled wf hscope hbelow
  have hfills := fills_filled wf hscope fun k hk => (hbelow k hk).has_right
  have hholds (k : NodeId) (hk : k ∈ kept all) : (filled dom all).Holds dom.fresh k :=
    hfills.holds k ((mem_moved_placed_iff wf hscope (hbelow k hk).has_right).2 hk)
  rw [taken, buildField_eq wf htag hdocument, h]
  refine List.mem_filter.2 ⟨?_, decide_eq_true ?_⟩
  · rcases hx with rfl | hx
    · exact (hbelow id hid).has_right
    · exact hx.has_right
  · rcases hx with rfl | hx
    · exact (hholds id hid).isBelow
    · -- Going down from the element, each node stays where it is or goes into the container.
      have hpath := wf.isBelow_iff_transGen.1 hx
      clear hx
      have hdown {p y : NodeId} (hp : dom.Holds p y) (hin : (filled dom all).IsBelow dom.fresh p) :
          (filled dom all).IsBelow dom.fresh y := by
        by_cases hy : y ∈ kept all
        · exact (hholds y hy).isBelow
        · exact hsheds.wellFormed.isBelow_of_holds hin ((hsheds.holds_iff hp.has_left).2 ⟨hp, hy⟩)
      induction hpath with
      | single hp => exact hdown hp (hholds id hid).isBelow
      | tail _ hp ih => exact hdown hp ih

end

/-! ## All fields -/

/-- Fields take elements below the scope, and change nothing else of the page. -/
theorem sheds_buildFields (sanitize : Sanitize.Sanitizer) (wf : dom.WellFormed)
    (htag : dom.tag? scope = some tag) (hdocument : tag.isDocument = false) {fields : List (String × Value)}
    (hfields : ∀ field ∈ fields, field.2.elements = []) :
    ∃ gone, Sheds scope gone dom (buildFields dom scope sanitize fields).2 := by
  have hscope := has_of_tag? htag
  induction fields generalizing dom with
  | nil => exact ⟨[], .refl wf hscope⟩
  | cons field fields ih =>
    obtain ⟨name, value⟩ := field
    have hrest : ∀ field ∈ fields, field.2.elements = [] := fun other hother =>
      hfields other (List.mem_cons_of_mem _ hother)
    rw [buildFields, buildField_eq wf htag hdocument]
    cases hpieces : fieldPieces dom scope sanitize value with
    | error fault => exact ⟨[], .refl wf hscope⟩
    | ok pieces =>
      cases pieces with
      | none => exact ih wf htag hrest hscope
      | some all =>
        have hbelow := isBelow_of_fieldPieces wf (hfields _ List.mem_cons_self) hpieces
        have hfirst := sheds_filled wf hscope hbelow
        obtain ⟨gone, hmore⟩ := ih hfirst.wellFormed
          (by rw [hfirst.tag?_eq hscope, htag]) hrest (hfirst.has hscope)
        exact ⟨_, hfirst.trans wf hmore⟩

/-- What a container holds stays in it, whatever other fields take. -/
theorem held_after (wf : dom.WellFormed) (hscope : dom.Has scope) {all : List Piece}
    (hbelow : ∀ id ∈ kept all, dom.IsBelow scope id) (h : Sheds scope gone (filled dom all) after) :
    held after dom.fresh = held (filled dom all) dom.fresh := by
  have hfirst := sheds_filled wf hscope hbelow
  have hfills := fills_filled wf hscope fun k hk => (hbelow k hk).has_right
  have wf' := hfirst.wellFormed
  obtain ⟨tag, htag⟩ := hfills.loose.element
  rw [held, held, h.find?_eq_self wf' (has_of_tag? htag)]
  intro k hk hin
  -- The container is neither the scope nor below it, and the scope is not in the container.
  rcases wf'.isBelow_total (h.below k hk) hin with heq | hinside | haround
  · exact wf.not_has_fresh (heq ▸ hscope)
  · exact not_isBelow_loose wf' hfills.loose hinside
  · exact wf.not_has_fresh (hfirst.isBelow_scope_of_isBelow wf haround).has_left

/-- What a single field comes to. -/
def fieldResult (name : String) (dom : Dom) (pieces : Option (List Piece)) : List (String × String) :=
  (pieces.map fun all => (name, pieceMarkup dom all)).toList

/-- What fields come to is told by the pieces of the first one and by the others on the page after
it. -/
theorem fieldMarkup_cons (wf : dom.WellFormed) (htag : dom.tag? scope = some tag)
    (hdocument : tag.isDocument = false) {name : String} {fields : List (String × Value)}
    (hvalue : value.elements = []) (hfields : ∀ field ∈ fields, field.2.elements = []) :
    fieldMarkup dom scope sanitize ((name, value) :: fields) =
      match fieldPieces dom scope sanitize value with
      | .error fault => .error fault
      | .ok pieces =>
        (fieldMarkup ((pieces.map (filled dom)).getD dom) scope sanitize fields).map fun rest =>
          fieldResult name dom pieces ++ rest := by
  have hscope := has_of_tag? htag
  rw [fieldMarkup, buildFields, buildField_eq wf htag hdocument]
  cases hpieces : fieldPieces dom scope sanitize value with
  | error fault => rfl
  | ok pieces =>
    cases pieces with
    | none =>
      simp only [Except.map, Option.map_none, Option.getD_none, fieldMarkup, fieldResult,
        Option.toList_none, List.nil_append]
      cases (buildFields dom scope sanitize fields).1 <;> rfl
    | some all =>
      have hbelow := isBelow_of_fieldPieces wf hvalue hpieces
      have hfirst := sheds_filled wf hscope hbelow
      obtain ⟨gone, hmore⟩ := sheds_buildFields sanitize hfirst.wellFormed
        (by rw [hfirst.tag?_eq hscope, htag]) hdocument hfields
      have hheld := (held_after wf hscope hbelow hmore).trans (held_filled wf hscope hbelow)
      simp only [Except.map, Option.map_some, Option.getD_some, fieldMarkup, fieldResult,
        Option.toList_some]
      cases (buildFields (filled dom all) scope sanitize fields).1 with
      | error fault => rfl
      | ok built => simp only [List.cons_append, List.nil_append, List.map_cons, hheld]

theorem fieldMarkup_single (wf : dom.WellFormed) (htag : dom.tag? scope = some tag)
    (hdocument : tag.isDocument = false) {field : String × Value} (hvalue : field.2.elements = []) :
    fieldMarkup dom scope sanitize [field] =
      (fieldPieces dom scope sanitize field.2).map (fieldResult field.1 dom) := by
  rw [fieldMarkup_cons wf htag hdocument hvalue fun _ h => absurd h List.not_mem_nil]
  cases fieldPieces dom scope sanitize field.2 with
  | error fault => rfl
  | ok pieces => exact congrArg Except.ok (List.append_nil _)

/-- What was taken of a page before does not show in what pieces come to if they were apart. -/
theorem pieceMarkup_eq (h : Sheds scope gone before after) (wf : before.WellFormed)
    {all : List Piece} (hout : ∀ id ∈ kept all, before.Has id ∧ ∀ k ∈ gone, ¬before.IsBelow id k) :
    pieceMarkup after all = pieceMarkup before all := by
  refine congrArg String.join (contents_congr fun id hid => ?_)
  rw [h.find?_eq_self wf (hout id hid).1 (hout id hid).2]

/-- A field on a page that gave away nothing that it reads comes to what it comes to on the page as it
was, and takes what it would take there. -/
theorem fieldResult_eq (name : String) (h : Sheds scope gone before after) (wf : before.WellFormed)
    {pieces : Option (List Piece)} (hvalue : value.elements = [])
    (hpieces : fieldPieces before scope sanitize value = .ok pieces)
    (hs : gone = [] ∨ Untouched before scope gone value) :
    fieldResult name after pieces = fieldResult name before pieces := by
  cases pieces with
  | none => rfl
  | some all =>
    have hbelow := isBelow_of_fieldPieces wf hvalue hpieces
    have hsame : pieceMarkup after all = pieceMarkup before all := by
      refine pieceMarkup_eq h wf fun id hid => ⟨(hbelow id hid).has_right, ?_⟩
      rcases hs with rfl | hs
      · exact fun k hk => absurd hk List.not_mem_nil
      · obtain ⟨spec, hspec, hread⟩ := exists_reads_of_kept hvalue hpieces hid
        exact ((hs.2 spec hspec).2 id hread).2
    rw [fieldResult, fieldResult, Option.map_some, Option.map_some, hsame]

/-- What a field takes leaves the later fields alone that are apart from it. -/
theorem exists_sheds_filled (h : Sheds scope gone before after) (wf : before.WellFormed)
    (htag : before.tag? scope = some tag) (hdocument : tag.isDocument = false)
    (hvalue : value.elements = []) {pieces : Option (List Piece)}
    (hpieces : fieldPieces before scope sanitize value = .ok pieces)
    (hafter : fieldPieces after scope sanitize value = .ok pieces) {others : List (String × Value)}
    (hothers : ∀ field ∈ others, gone = [] ∨ Untouched before scope gone field.2)
    (hapart : ∀ field ∈ others, taken before scope sanitize value = [] ∨
      Untouched before scope (taken before scope sanitize value) field.2) :
    ∃ all, Sheds scope all before ((pieces.map (filled after)).getD after) ∧
      ∀ field ∈ others, all = [] ∨ Untouched before scope all field.2 := by
  cases pieces with
  | none => exact ⟨gone, h, hothers⟩
  | some all =>
    have hhas := h.has (has_of_tag? htag)
    have hbelow := isBelow_of_fieldPieces h.wellFormed hvalue hafter
    refine ⟨gone ++ kept all, h.trans wf (sheds_filled h.wellFormed hhas hbelow),
      fun other hother => ?_⟩
    have hsub : kept all ⊆ taken before scope sanitize value := fun id hid =>
      mem_taken_of_kept wf htag hdocument hvalue hpieces hid (.inl rfl)
    rcases hapart other hother with hnone | huntouched
    · have hkept : kept all = [] := List.subset_nil.1 (hnone ▸ hsub)
      rw [hkept, List.append_nil]
      exact hothers other hother
    · have hkept := huntouched.of_subset hsub
      rcases hothers other hother with rfl | hgone
      · exact .inr hkept
      · exact .inr (hgone.append hkept)

/-- Fields on a page that earlier ones took elements of come to what each comes to on the page as it
was, if they are apart from these and from each other. -/
theorem fieldMarkup_after (wf : before.WellFormed) (htag : before.tag? scope = some tag)
    (hdocument : tag.isDocument = false) {fields : List (String × Value)}
    (hfields : ∀ field ∈ fields, field.2.elements = [])
    (hapart : fields.Pairwise (Apart before scope sanitize)) (h : Sheds scope gone before after)
    (hs : ∀ field ∈ fields, gone = [] ∨ Untouched before scope gone field.2) :
    fieldMarkup after scope sanitize fields =
      (fields.mapM fun field => fieldMarkup before scope sanitize [field]).map List.flatten := by
  have hscope := has_of_tag? htag
  induction fields generalizing after gone with
  | nil => rfl
  | cons field fields ih =>
    obtain ⟨name, value⟩ := field
    obtain ⟨hfirst, hrest⟩ := List.pairwise_cons.1 hapart
    have hvalue := hfields _ List.mem_cons_self
    have hothers : ∀ field ∈ fields, field.2.elements = [] := fun other hother =>
      hfields other (List.mem_cons_of_mem _ hother)
    have hself := hs _ List.mem_cons_self
    have hlater : ∀ field ∈ fields, gone = [] ∨ Untouched before scope gone field.2 :=
      fun other hother => hs other (List.mem_cons_of_mem _ hother)
    have hsame := fieldPieces_eq h wf htag hdocument sanitize hself
    rw [fieldMarkup_cons h.wellFormed (by rw [h.tag?_eq hscope, htag]) hdocument hvalue hothers,
      List.mapM_cons, fieldMarkup_single wf htag hdocument hvalue, hsame]
    cases hpieces : fieldPieces before scope sanitize value with
    | error fault => rfl
    | ok pieces =>
      have hresult := fieldResult_eq name h wf hvalue hpieces hself
      obtain ⟨all, hsheds, huntouched⟩ := exists_sheds_filled h wf htag hdocument hvalue hpieces
        (hsame.trans hpieces) hlater hfirst
      have hrest' := ih hothers hrest hsheds huntouched
      simp only [hresult, hrest']
      cases fields.mapM fun field => fieldMarkup before scope sanitize [field] <;> rfl

/-- What is done to each member of a row succeeds in any order of the members if it does in one, and
comes to the same but for the order. -/
theorem exists_mapM_of_perm {α β ε : Type} {f : α → Except ε β} {row other : List α}
    (h : row.Perm other) {results : List β} (hrow : row.mapM f = .ok results) :
    ∃ results', other.mapM f = .ok results' ∧ results'.Perm results := by
  have hcons (a : α) (rest : List α) (all : List β) : (a :: rest).mapM f = .ok all ↔
      ∃ b more, f a = .ok b ∧ rest.mapM f = .ok more ∧ all = b :: more := by
    rw [List.mapM_cons]
    cases f a with
    | error fault => simp [bind, Except.bind]
    | ok b =>
      cases rest.mapM f with
      | error fault => simp [bind, Except.bind]
      | ok more => simp [bind, Except.bind, pure, Except.pure, eq_comm]
  induction h generalizing results with
  | nil => exact ⟨results, hrow, .refl _⟩
  | cons a _ ih =>
    obtain ⟨b, more, hb, hmore, rfl⟩ := (hcons ..).1 hrow
    obtain ⟨more', hmore', hperm⟩ := ih hmore
    exact ⟨b :: more', (hcons ..).2 ⟨b, more', hb, hmore', rfl⟩, hperm.cons b⟩
  | swap a a' rest =>
    obtain ⟨b', tail, hb', htail, rfl⟩ := (hcons ..).1 hrow
    obtain ⟨b, more, hb, hmore, rfl⟩ := (hcons ..).1 htail
    exact ⟨b :: b' :: more, (hcons ..).2 ⟨b, _, hb, (hcons ..).2 ⟨b', more, hb', hmore, rfl⟩, rfl⟩,
      .swap ..⟩
  | trans _ _ ih ih' =>
    obtain ⟨middle, hmiddle, hperm⟩ := ih hrow
    obtain ⟨last, hlast, hperm'⟩ := ih' hmiddle
    exact ⟨last, hlast, hperm'.trans hperm⟩

/-- Fields that are apart come to what each of them comes to on its own, and in another order, in which
they are apart as well, to the same but for the order. -/
theorem fieldMarkup_apart (wf : dom.WellFormed) (htag : dom.tag? scope = some tag)
    (hdocument : tag.isDocument = false) (sanitize : Sanitize.Sanitizer)
    {fields : List (String × Value)} (hfields : ∀ field ∈ fields, field.2.elements = [])
    (hapart : fields.Pairwise (Apart dom scope sanitize)) :
    fieldMarkup dom scope sanitize fields =
        (fields.mapM fun field => fieldMarkup dom scope sanitize [field]).map List.flatten ∧
      ∀ others, fields.Perm others → others.Pairwise (Apart dom scope sanitize) →
        ∀ told, fieldMarkup dom scope sanitize fields = .ok told →
          ∃ told', fieldMarkup dom scope sanitize others = .ok told' ∧ told'.Perm told := by
  have hall {row : List (String × Value)} (hrow : ∀ field ∈ row, field.2.elements = [])
      (happart : row.Pairwise (Apart dom scope sanitize)) :=
    fieldMarkup_after wf htag hdocument hrow happart (.refl wf (has_of_tag? htag))
      fun _ _ => .inl rfl
  refine ⟨hall hfields hapart, fun others hperm hothers told htold => ?_⟩
  rw [hall hfields hapart] at htold
  obtain ⟨results, hresults, rfl⟩ := exists_of_map_eq_ok htold
  obtain ⟨results', hresults', hsame⟩ := exists_mapM_of_perm hperm hresults
  refine ⟨results'.flatten, ?_, hsame.flatten⟩
  rw [hall (fun field hfield => hfields field (hperm.mem_iff.2 hfield)) hothers, hresults']
  rfl

/-- A page with elements in its main part, each of which holds some text. -/
def pageOf (elements : Forest) : Dom :=
  ⟨.element 0 documentTag (.element 1 ⟨"main", .unspecified, []⟩ elements .nil) .nil, 6, false⟩

/-- A heading and a paragraph. -/
def titledPage : Dom :=
  pageOf (.element 2 ⟨"h1", .unspecified, []⟩ (.leaf 3 (.text .plain "T") .nil)
    (.element 4 ⟨"p", .unspecified, []⟩ (.leaf 5 (.text .plain "x") .nil) .nil))

/-- Fields that keep the heading and, as there is no second one, the paragraph. -/
def titledFields : List (String × Value) :=
  [("Title", .text "h1"),
    ("Body", .list [.list [.text "h2", .text "h2"], .list [.text "main > p", .text "p"]])]

/-- A heading and a paragraph go to two fields in any order. -/
theorem fieldMarkup_apart_titled :
    titledPage.WellFormed ∧ (∀ field ∈ titledFields, field.2.elements = []) ∧
      titledFields.Pairwise (Apart titledPage 1 Sanitize.standardSanitizer) ∧
      titledFields.reverse.Pairwise (Apart titledPage 1 Sanitize.standardSanitizer) ∧
      fieldMarkup titledPage 1 Sanitize.standardSanitizer titledFields =
        .ok [("Title", "<h1>T</h1>"), ("Body", "<p>x</p>")] ∧
      ∃ told, fieldMarkup titledPage 1 Sanitize.standardSanitizer titledFields.reverse = .ok told ∧
        told.Perm [("Title", "<h1>T</h1>"), ("Body", "<p>x</p>")] := by
  have wf : titledPage.WellFormed := by decide
  have hfields : ∀ field ∈ titledFields, field.2.elements = [] := by decide
  have hapart : titledFields.Pairwise (Apart titledPage 1 Sanitize.standardSanitizer) := by
    decide +kernel
  have hreverse : titledFields.reverse.Pairwise (Apart titledPage 1 Sanitize.standardSanitizer) := by
    decide +kernel
  obtain ⟨heach, horder⟩ := fieldMarkup_apart wf rfl rfl Sanitize.standardSanitizer hfields hapart
  have halone : (titledFields.mapM fun field =>
      fieldMarkup titledPage 1 Sanitize.standardSanitizer [field]) =
        .ok [[("Title", "<h1>T</h1>")], [("Body", "<p>x</p>")]] := by
    decide +kernel
  rw [halone] at heach
  exact ⟨wf, hfields, hapart, hreverse, heach,
    horder _ titledFields.reverse_perm.symm hreverse _ heach⟩

/-- Two fields that want the same element: the first one takes it, and the second one is left with the
text of its selector, so that neither comes to the same in the other order. -/
theorem same_element_twice :
    let page := pageOf (.element 2 ⟨"p", .unspecified, []⟩ (.leaf 3 (.text .plain "x") .nil) .nil)
    let first : String × Value := ("A", .text "p")
    let second : String × Value := ("B", .text "p")
    fieldMarkup page 1 Sanitize.standardSanitizer [second] = .ok [("B", "<p>x</p>")] ∧
      fieldMarkup page 1 Sanitize.standardSanitizer [first, second] =
        .ok [("A", "<p>x</p>"), ("B", "p")] ∧
      fieldMarkup page 1 Sanitize.standardSanitizer [second, first] =
        .ok [("B", "<p>x</p>"), ("A", "p")] ∧
      ¬[("B", "<p>x</p>"), ("A", "p")].Perm [("A", "<p>x</p>"), ("B", "p")] := by
  decide +kernel

end Cell

end PageBlocks
