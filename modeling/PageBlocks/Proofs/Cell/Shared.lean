import PageBlocks.Proofs.Cell.Fields
import PageBlocks.Proofs.Dom.Guard
import PageBlocks.Proofs.Dom.Shed
/-!
# Fields share the page out

New elements beside the document, the containers, may take up nodes of the page one after another.  A
node that was taken leaves with all that is in it, but what is in it may be taken again, out of the
container that it is in by then.  In the end each node of the document is in one place: it was left
where it was, or it is inside one of the containers.

One selector may find an element together with others inside it, and several fields may find the same
elements.  Each field moves what it finds into its own container, out of the page or out of an earlier
container.  No node of the page is lost on the way, and none is there twice.

## Main results

* `Dom.Shared.trans` — containers are filled in several steps.
* `Dom.Shared.exists_container` — what a taken node held is inside a container.
* `Dom.Shared.sharesOut` — how the document was shared out in the end.
* `Cell.shared_buildField` — what one field takes goes into one container.
* `Cell.buildFields_sharesOut` — each node of the document stays where it is or is in one container.
-/

namespace PageBlocks

/-! ## Pages shared out to containers -/

/-- A view without its row of children: the start of an element, or what a leaf holds. -/
def View.alone (view : View) : View :=
  view.withKids fun _ => []

namespace Dom

/-- A page of which the nodes in `gone`, all below a scope, were given to new elements. -/
structure Shared (scope : NodeId) (gone containers : List NodeId) (before after : Dom) : Prop where
  sheds : Sheds scope gone before after
  distinct : containers.Nodup
  fresh : ∀ c ∈ containers, ¬before.Has c
  loose : ∀ c ∈ containers, Loose after c
  given : ∀ x ∈ gone, ∃ c ∈ containers, after.Holds c x

/-- Each node of the document before is in one place after: still in the document, where it was, or
inside one of the containers. -/
structure SharesOut (containers : List NodeId) (before after : Dom) : Prop where
  wellFormed : after.WellFormed
  distinct : containers.Nodup
  /-- A node is left in the document or is inside a single container, and not both. -/
  place : ∀ x, before.isAttached x = true →
    (after.isAttached x = true ∧ ∀ c ∈ containers, ¬after.IsBelow c x) ∨
      (after.isAttached x = false ∧ ∃! c, c ∈ containers ∧ after.IsBelow c x)
  /-- What is left keeps its parent. -/
  parent : ∀ x, before.isAttached x = true → after.isAttached x = true →
    after.parent? x = before.parent? x
  /-- Each node keeps its attributes, or its text. -/
  alone : ∀ x, before.isAttached x = true →
    (after.view? x).map View.alone = (before.view? x).map View.alone
  /-- What is left stands in the order in which it stood, and nothing else is in the document. -/
  order : after.document.ids.Sublist before.document.ids

variable {scope x c : NodeId} {gone more containers others : List NodeId} {before after : Dom}

/-! ## The document -/

theorem WellFormed.document_eq (wf : before.WellFormed) :
    before.find? documentId = some before.document := by
  obtain ⟨tag, htag⟩ := wf.document
  obtain ⟨node, hnode⟩ := has_iff_find?.1 (has_of_tag? htag)
  rw [Dom.document, hnode, Option.getD_some]

/-- The nodes of the document are the document itself and what is below it. -/
theorem WellFormed.isAttached_iff (wf : before.WellFormed) :
    before.isAttached x = true ↔ x = documentId ∨ before.IsBelow documentId x := by
  have hnode := wf.document_eq
  have hid : before.document.id = documentId := Forest.id_of_find? hnode
  rw [isAttached, List.contains_iff_mem, Node.ids_eq, List.mem_cons, hid, isBelow_iff]
  refine or_congr_right ⟨fun hin => ⟨_, hnode, hin⟩, ?_⟩
  rintro ⟨node, hfind, hin⟩
  rw [hnode, Option.some.injEq] at hfind
  exact hfind ▸ hin

theorem WellFormed.has_of_isAttached (wf : before.WellFormed) (hx : before.isAttached x = true) :
    before.Has x := by
  rcases wf.isAttached_iff.1 hx with rfl | hbelow
  · obtain ⟨tag, htag⟩ := wf.document
    exact has_of_tag? htag
  · exact hbelow.has_right

/-! ## Step by step -/

namespace Shared

theorem refl (wf : before.WellFormed) (hscope : before.Has scope) :
    Shared scope [] [] before before where
  sheds := .refl wf hscope
  distinct := List.nodup_nil
  fresh _ hc := absurd hc List.not_mem_nil
  loose _ hc := absurd hc List.not_mem_nil
  given _ hx := absurd hx List.not_mem_nil

variable (h : Shared scope gone containers before after)

include h

/-- Containers are filled in several steps; what is in one may be given to a later one. -/
theorem trans (wf : before.WellFormed) {later : Dom} (h' : Shared scope more others after later) :
    Shared scope (gone ++ more) (containers ++ others) before later where
  sheds := h.sheds.trans wf h'.sheds
  distinct := by
    refine List.nodup_append'.2 ⟨h.distinct, h'.distinct, fun c hc hother => h'.fresh c hother ?_⟩
    obtain ⟨tag, htag⟩ := (h.loose c hc).element
    exact has_of_tag? htag
  fresh c hc := by
    rcases List.mem_append.1 hc with hc | hc
    · exact h.fresh c hc
    · exact fun has => h'.fresh c hc (h.sheds.has has)
  loose c hc := by
    rcases List.mem_append.1 hc with hc | hc
    · have hloose := h.loose c hc
      obtain ⟨tag, htag⟩ := hloose.element
      have has := has_of_tag? htag
      have hout : c ∉ more := fun hin =>
        not_isBelow_loose h.sheds.wellFormed hloose (h'.sheds.below c hin)
      exact ⟨⟨tag, (h'.sheds.tag?_eq has).trans htag⟩,
        (h'.sheds.parent?_eq h.sheds.wellFormed has hout).trans hloose.parent⟩
    · exact h'.loose c hc
  given x hx := by
    by_cases hmore : x ∈ more
    · obtain ⟨c, hc, hholds⟩ := h'.given x hmore
      exact ⟨c, List.mem_append_right _ hc, hholds⟩
    · obtain ⟨c, hc, hholds⟩ := h.given x ((List.mem_append.1 hx).resolve_right hmore)
      exact ⟨c, List.mem_append_left _ hc, (h'.sheds.holds_iff hholds.has_left).2 ⟨hholds, hmore⟩⟩

/-! ## In the end -/

/-- Only one container is around a node. -/
theorem container_unique {d : NodeId} (hc : c ∈ containers) (hd : d ∈ containers)
    (hcx : after.IsBelow c x) (hdx : after.IsBelow d x) : c = d := by
  have wf' := h.sheds.wellFormed
  rcases wf'.isBelow_total hcx hdx with heq | hbelow | hbelow
  · exact heq
  · exact absurd hbelow (not_isBelow_loose wf' (h.loose d hd))
  · exact absurd hbelow (not_isBelow_loose wf' (h.loose c hc))

variable (wf : before.WellFormed)

include wf

/-- What a taken node held is inside a container, if not in the one that holds that node. -/
theorem exists_container {k : NodeId} (hk : k ∈ gone) (hx : k = x ∨ before.IsBelow k x) :
    ∃ c ∈ containers, after.IsBelow c x := by
  have hgiven {y : NodeId} (hy : y ∈ gone) : ∃ c ∈ containers, after.IsBelow c y := by
    obtain ⟨c, hc, hholds⟩ := h.given y hy
    exact ⟨c, hc, hholds.isBelow⟩
  rcases hx with rfl | hx
  · exact hgiven hk
  have hpath := wf.isBelow_iff_transGen.1 hx
  clear hx
  -- Going down from the taken node, each node is still below the last one or was taken again.
  have hstep {p y : NodeId} (hholds : before.Holds p y)
      (hp : ∃ c ∈ containers, after.IsBelow c p) : ∃ c ∈ containers, after.IsBelow c y := by
    by_cases hgone : y ∈ gone
    · exact hgiven hgone
    · obtain ⟨c, hc, hbelow⟩ := hp
      have hstill := (h.sheds.holds_iff hholds.has_left).2 ⟨hholds, hgone⟩
      exact ⟨c, hc, h.sheds.wellFormed.isBelow_of_holds hbelow hstill⟩
  induction hpath with
  | single hholds => exact hstep hholds (hgiven hk)
  | tail _ hholds ih => exact hstep hholds ih

variable (hscope : before.isAttached scope = true)

include hscope

/-- No container is around the document, in which the scope was. -/
theorem not_isBelow_document (hc : c ∈ containers) : ¬after.IsBelow c documentId := by
  intro hbelow
  have haround := h.sheds.isBelow_iff wf h.sheds.there (h.sheds.notMem_around wf) (p := documentId)
  have hin : after.IsBelow c scope := by
    rcases wf.isAttached_iff.1 hscope with rfl | hscope
    · exact hbelow
    · exact h.sheds.wellFormed.isBelow_trans hbelow (haround.2 hscope)
  exact h.fresh c hc (h.sheds.isBelow_scope_of_isBelow wf hin).has_left

/-- What is in the document is in no container. -/
theorem not_isBelow_of_isAttached (hc : c ∈ containers) (hx : after.isAttached x = true) :
    ¬after.IsBelow c x := by
  have wf' := h.sheds.wellFormed
  have hdocument := h.not_isBelow_document wf hscope hc
  intro hbelow
  rcases wf'.isAttached_iff.1 hx with rfl | hin
  · exact hdocument hbelow
  · rcases wf'.isBelow_total hbelow hin with rfl | haround | haround
    · obtain ⟨tag, htag⟩ := wf.document
      exact h.fresh _ hc (has_of_tag? htag)
    · exact hdocument haround
    · exact not_isBelow_loose wf' (h.loose c hc) haround

/-- How the document was shared out in the end. -/
theorem sharesOut : SharesOut containers before after where
  wellFormed := h.sheds.wellFormed
  distinct := h.distinct
  place x hx := by
    by_cases htaken : ∃ k ∈ gone, k = x ∨ before.IsBelow k x
    · obtain ⟨k, hk, hkx⟩ := htaken
      obtain ⟨c, hc, hbelow⟩ := h.exists_container wf hk hkx
      refine .inr ⟨Bool.eq_false_iff.2 fun hin => ?_, c, ⟨hc, hbelow⟩, fun d hd => ?_⟩
      · exact h.not_isBelow_of_isAttached wf hscope hc hin hbelow
      · exact h.container_unique hd.1 hc hd.2 hbelow
    · have hsame := h.sheds.isBelow_iff wf (wf.has_of_isAttached hx) (p := documentId)
        fun k hk hgone => htaken ⟨k, hgone, hk⟩
      have hstill : after.isAttached x = true :=
        h.sheds.wellFormed.isAttached_iff.2 ((wf.isAttached_iff.1 hx).imp_right hsame.2)
      exact .inl ⟨hstill, fun c hc => h.not_isBelow_of_isAttached wf hscope hc hstill⟩
  parent x hx hstill := by
    refine h.sheds.parent?_eq wf (wf.has_of_isAttached hx) fun hgone => ?_
    obtain ⟨c, hc, hbelow⟩ := h.exists_container wf hgone (.inl rfl)
    exact h.not_isBelow_of_isAttached wf hscope hc hstill hbelow
  alone x hx := by
    rw [h.sheds.view x (wf.has_of_isAttached hx), Option.map_map]
    congr 1
    funext view
    rw [Function.comp_apply, View.alone, View.withKids_withKids, View.alone]
  order := by
    have hdocument := h.sheds.find?_eq wf (wf.has_of_isAttached (wf.isAttached_iff.2 (.inl rfl)))
    rw [wf.document_eq, Option.map_some, h.sheds.wellFormed.document_eq, Option.some.injEq]
      at hdocument
    rw [hdocument, Node.ids_eq, Node.ids_eq, Node.id_prune, Node.children_prune]
    exact (Forest.ids_prune_sublist ..).cons_cons _

end Shared

end Dom

/-! ## Fields and their containers -/

open Dom

/-- What new nodes leave of a page is all of it. -/
theorem Dom.Makes.sheds {scope : NodeId} {before after : Dom} (h : before.Makes after)
    (wf : before.WellFormed) (hscope : before.Has scope) : Sheds scope [] before after where
  wellFormed := Changes.wellFormed h wf
  there := hscope
  view x hx := by
    have hsealed : Sealed {y | before.Has y} {y | before.Has y} before :=
      fun p hp => ⟨hp, fun x hx => hx.has_right⟩
    rw [h.changes.view?_eq wf hsealed hx]
    exact (Forest.map_withKids_eq_self (List.filter_eq_self.2 fun k _ => by simp)).symm
  below x hx := absurd hx List.not_mem_nil
  held p x hx hp := by
    have hparent := (Changes.wellFormed h wf).parent?_eq_some_iff.2 hp
    rw [h.parent?_eq wf (Set.mem_univ x) hx, wf.parent?_eq_some_iff] at hparent
    exact .inl hparent.has_left

/-- All that is not below a scope is guarded. -/
theorem Dom.WellFormed.guarded_outside {dom : Dom} (wf : dom.WellFormed) (scope : NodeId) :
    Guarded {k | dom.Has k ∧ ¬dom.IsBelow scope k} scope dom := by
  refine ⟨wf, fun k hk => hk.1, fun k hk p hp => ⟨⟨hp.has_left, fun hin => ?_⟩, ?_⟩⟩
  · exact hk.2 (wf.isBelow_of_holds hin hp)
  · rintro rfl
    exact hk.2 hp.isBelow

namespace Cell

variable {scope : NodeId} {dom after : Dom} {sanitize : Sanitize.Sanitizer}

/-- A container takes nodes from below the scope. -/
theorem shared_buildContainer (wf : dom.WellFormed) (hscope : dom.Has scope) {cell params : Value}
    (hcell : cell.elements = []) {id : NodeId}
    (h : buildContainer dom scope cell params sanitize = .ok (id, after)) :
    ∃ gone, Shared scope gone [id] dom after := by
  have hgrows := grows_createElement dom containerTag
  have hg := (wf.guarded_outside scope).of_makes (.single (.createElement dom containerTag))
  have hloose := loose_createElement wf containerTag
  rw [buildContainer] at h
  obtain ⟨⟨values, mid⟩, he, heq⟩ := exists_of_map_eq_ok h
  cases heq
  have hyields := evaluate_frame (hg.insert_loose hloose) (.inl rfl)
    (Value.isFree_of_elements_nil hcell) he
  have wf' := hyields.makes.wellFormed hg.wellFormed
  have hfree {k : NodeId} (hk : k ∈ moved (Value.flatten values)) :
      mid.Free (insert dom.fresh {k | dom.Has k ∧ ¬dom.IsBelow scope k}) k :=
    Value.isFree_element.1 (Value.isFree_flatten hyields.free _ (mem_moved_iff.1 hk))
  have hmid : Sheds scope [] dom mid := (hgrows.sheds wf hscope).trans wf
    (hyields.makes.sheds hg.wellFormed (hgrows.has_iff.2 (.inl hscope)))
  have hfills := fills_container wf' (hloose.of_changes hg.wellFormed hyields.makes (Set.mem_univ _))
    fun k hk => ⟨(hfree hk).2, fun heq => (hfree hk).1 (.inl heq.symm)⟩
  refine ⟨(moved (Value.flatten values)).filter dom.Has, ?_, List.nodup_singleton _, ?_, ?_, ?_⟩
  · refine hfills.sheds hmid wf.not_has_fresh (fun x hx => ?_) fun x hx => ?_
    · rw [List.mem_filter, decide_eq_true_iff, and_iff_left hx]
    · obtain ⟨hin, has⟩ := List.mem_filter.1 hx
      by_contra hout
      exact (hfree hin).1 (.inr ⟨of_decide_eq_true has, hout⟩)
  · intro c hc
    rw [List.mem_singleton.1 hc]
    exact wf.not_has_fresh
  · intro c hc
    rw [List.mem_singleton.1 hc]
    exact hfills.loose
  · intro x hx
    exact ⟨_, List.mem_singleton_self _, hfills.holds x (List.mem_filter.1 hx).1⟩

/-- What one field takes goes into its container, if it has one. -/
theorem shared_buildField (wf : dom.WellFormed) (hscope : dom.Has scope) {value : Value}
    (hvalue : value.elements = []) {id : Option NodeId}
    (h : buildField dom scope sanitize value = .ok (id, after)) :
    ∃ gone, Shared scope gone id.toList dom after := by
  have hcontainer {cell : Value} (params : Value) (hcell : cell.elements = [])
      (he : (buildContainer dom scope cell params sanitize).map
        (fun built => (some built.1, built.2)) = .ok (id, after)) :
      ∃ gone, Shared scope gone id.toList dom after := by
    obtain ⟨result, hbuilt, heq⟩ := exists_of_map_eq_ok he
    cases heq
    exact shared_buildContainer wf hscope hcell hbuilt
  cases value with
  | list entries =>
    rw [buildField] at h
    split at h
    · cases h
    · cases h
      exact ⟨[], .refl wf hscope⟩
    · next cell params hchoose =>
      exact hcontainer params (elements_of_chooseEntry (elements_of_items hvalue) hchoose) h
  | null | bool _ | integer _ | decimal _ | text _ | element _ | config _ =>
    exact hcontainer .null hvalue h

/-- Fields take nodes one after another, each into its own container; these are all the containers,
unless a field cannot be built. -/
theorem shared_buildFields (wf : dom.WellFormed) (hscope : dom.Has scope)
    {fields : List (String × Value)} (hfields : ∀ field ∈ fields, field.2.elements = []) :
    ∃ gone containers,
      Shared scope gone containers dom (buildFields dom scope sanitize fields).2 ∧
      ∀ built, (buildFields dom scope sanitize fields).1 = .ok built →
        containers = built.map Prod.snd := by
  induction fields generalizing dom with
  | nil =>
    refine ⟨[], [], .refl wf hscope, fun built h => ?_⟩
    cases h
    rfl
  | cons field fields ih =>
    obtain ⟨name, value⟩ := field
    rw [buildFields]
    cases hbuilt : buildField dom scope sanitize value with
    | error fault => exact ⟨[], [], .refl wf hscope, fun built h => by cases h⟩
    | ok result =>
      obtain ⟨id, mid⟩ := result
      obtain ⟨gone, hfirst⟩ := shared_buildField wf hscope (hfields _ List.mem_cons_self) hbuilt
      obtain ⟨more, others, hrest, hnamed⟩ := ih hfirst.sheds.wellFormed (hfirst.sheds.has hscope)
        fun other hother => hfields other (List.mem_cons_of_mem _ hother)
      refine ⟨gone ++ more, id.toList ++ others, hfirst.trans wf hrest, fun built h => ?_⟩
      obtain ⟨rest, hrest, rfl⟩ := exists_of_map_eq_ok h
      rw [hnamed rest hrest, List.map_append]
      cases id <;> rfl

/-- When fields are built, each node of the document is in one place afterwards: it stays where it was
with all that is said of it, or it is inside one of the containers.  If a field cannot be built the same
holds of the containers that were filled by then. -/
theorem buildFields_sharesOut (wf : dom.WellFormed) (hscope : dom.isAttached scope = true)
    (sanitize : Sanitize.Sanitizer) {fields : List (String × Value)}
    (hfields : ∀ field ∈ fields, field.2.elements = []) :
    ∃ containers, SharesOut containers dom (buildFields dom scope sanitize fields).2 ∧
      ∀ built, (buildFields dom scope sanitize fields).1 = .ok built →
        containers = built.map Prod.snd := by
  obtain ⟨gone, containers, hshared, hnamed⟩ :=
    shared_buildFields wf (wf.has_of_isAttached hscope) hfields
  exact ⟨containers, hshared.sharesOut wf hscope, hnamed⟩

/-- A paragraph in a division, and text behind it. -/
def nestedPage : Dom :=
  pageOf (.element 2 ⟨"div", .unspecified, []⟩
    (.element 3 ⟨"p", .unspecified, []⟩ (.leaf 4 (.text .plain "x") .nil) .nil)
    (.leaf 5 (.text .plain "y") .nil))

/-- A field that wants the division and the paragraph in it, and one that wants the paragraph again. -/
def nestedFields : List (String × Value) :=
  [("Both", .list [.list [.text "div", .list [.text "div", .text "p"]]]), ("Again", .text "p")]

/-- The first field takes the division and then the paragraph out of it, so that the second one finds
none. -/
theorem buildFields_sharesOut_nested :
    nestedPage.WellFormed ∧ nestedPage.isAttached 1 = true ∧
      (∀ field ∈ nestedFields, field.2.elements = []) ∧
      SharesOut [6, 7] nestedPage
        (buildFields nestedPage 1 Sanitize.standardSanitizer nestedFields).2 := by
  have wf : nestedPage.WellFormed := by decide
  have hscope : nestedPage.isAttached 1 = true := by decide
  have hfields : ∀ field ∈ nestedFields, field.2.elements = [] := by decide
  have hbuilt : (buildFields nestedPage 1 Sanitize.standardSanitizer nestedFields).1 =
      .ok [("Both", 6), ("Again", 7)] := by
    decide +kernel
  obtain ⟨containers, hshares, hnamed⟩ :=
    buildFields_sharesOut wf hscope Sanitize.standardSanitizer hfields
  obtain rfl : containers = [6, 7] := hnamed _ hbuilt
  exact ⟨wf, hscope, hfields, hshares⟩

end Cell

end PageBlocks
