import Mathlib.Data.List.Basic
import PageBlocks.Dom.Path
import PageBlocks.Proofs.Dom.Cleared
import PageBlocks.Proofs.Text.Search
/-!
# Reading paths back

The path of an element is text, and names may hold brackets and digits.  As long as no name on the way
holds a slash the text tells the steps all the same: slashes stand between the steps only, and the last
bracket of a step is the one in front of its number.  The steps in turn tell the element, since the
elements of one name below another element have different numbers.

## Main results

* `Spot.segment_injective` — a step is told by its text.
* `Spot.node_eq_of_steps` — an element of a tree is told by its steps.
* `Spot.stem_eq_stem_iff` — nodes have the same stem just when the steps to what holds them are the same
  and so are their names.
-/

namespace PageBlocks

/-! ## Joining text -/

private theorem intercalate_append_last {α : Type} (separator : List α) (pieces : List (List α))
    (piece more : List α) :
    separator.intercalate (pieces ++ [piece ++ more]) =
      separator.intercalate (pieces ++ [piece]) ++ more := by
  induction pieces with
  | nil => simp
  | cons first pieces ih =>
    have hne (last : List α) : pieces ++ [last] ≠ [] := by simp
    rw [List.cons_append, List.cons_append, List.intercalate_cons_of_ne_nil (hne _),
      List.intercalate_cons_of_ne_nil (hne _), ih]
    simp only [List.append_assoc]

/-- Pieces without the separator in them are told by the text that joins them. -/
private theorem eq_of_intercalate_eq {α : Type} [DecidableEq α] {separator : α}
    {pieces others : List (List α)} (hpieces : ∀ piece ∈ pieces, separator ∉ piece)
    (hothers : ∀ piece ∈ others, separator ∉ piece) (hne : pieces ≠ []) (hne' : others ≠ [])
    (h : [separator].intercalate pieces = [separator].intercalate others) : pieces = others := by
  rw [← List.splitOn_intercalate separator hpieces hne, h,
    List.splitOn_intercalate separator hothers hne']

namespace Spot

/-! ## The text of a step -/

/-- The text of a step. -/
def segment (step : String × Nat) : List Char :=
  step.1.toList ++ '[' :: (Nat.toDigits 10 step.2 ++ [']'])

private theorem notMem_number {c : Char} (hc : c.isDigit = false) (hbracket : c ≠ ']') (n : Nat) :
    c ∉ Nat.toDigits 10 n ++ [']'] := by
  intro h
  rcases List.mem_append.1 h with h | h
  · have hdigit := Nat.isDigit_of_mem_toDigits (Nat.succ_pos 9) (Nat.le_refl 10) h
    rw [hc] at hdigit
    cases hdigit
  · exact hbracket (List.mem_singleton.1 h)

/-- A step is told by its text, whatever its name is. -/
theorem segment_injective : Function.Injective segment := by
  rintro ⟨name, number⟩ ⟨other, place⟩ h
  have hcut (name : String) (number : Nat) : Text.cutLast? ['['] (segment (name, number)) =
      some (name.toList, Nat.toDigits 10 number ++ [']']) :=
    Text.cutLast?_of_notMem (notMem_number (by decide) (by decide) number)
  have hboth := (hcut name number).symm.trans (h ▸ hcut other place)
  obtain ⟨hname, hnumber⟩ := Prod.mk.inj (Option.some.inj hboth)
  have hdigits : Nat.toDigits 10 number = Nat.toDigits 10 place := List.append_cancel_right hnumber
  have hsame : number = place := by
    calc number = Nat.ofDigitChars 10 (Nat.toDigits 10 number) 0 :=
          Nat.ofDigitChars_ten_toDigits.symm
      _ = Nat.ofDigitChars 10 (Nat.toDigits 10 place) 0 := by rw [hdigits]
      _ = place := Nat.ofDigitChars_ten_toDigits
  rw [String.toList_inj.1 hname, hsame]

theorem slash_notMem_segment {step : String × Nat} (h : '/' ∉ step.1.toList) :
    '/' ∉ segment step := by
  rw [segment, List.mem_append, List.mem_cons]
  rintro (hname | hbracket | hnumber)
  · exact h hname
  · exact absurd hbracket (by decide)
  · exact notMem_number (by decide) (by decide) _ hnumber

/-! ## The text of a path -/

theorem toList_path (spot : Spot) :
    spot.path.toList = '/' :: ['/'].intercalate (spot.steps.map segment) := by
  have hpath : spot.path = "/" ++ "/".intercalate (spot.steps.map fun step =>
      step.1 ++ "[" ++ toString step.2 ++ "]") := rfl
  have hsegment (step : String × Nat) :
      (step.1 ++ "[" ++ toString step.2 ++ "]").toList = segment step := by
    rw [segment, Nat.toString_eq_repr]
    simp
  rw [hpath, String.toList_append, String.toList_intercalate, List.map_map]
  show '/' :: ['/'].intercalate (spot.steps.map fun step =>
    (step.1 ++ "[" ++ toString step.2 ++ "]").toList) = _
  simp only [hsegment]

/-- The stem of a node is told by the way to what holds it and by its name. -/
theorem stem_inside (parent : Spot) (before : List Node) (node : Node) (after : Forest) :
    (inside parent before node after).stem =
      '/' :: ['/'].intercalate (parent.steps.map segment ++ [node.name.toList]) := by
  have hpath : (inside parent before node after).path.toList =
      ('/' :: ['/'].intercalate (parent.steps.map segment ++ [node.name.toList])) ++
        '[' :: (Nat.toDigits 10 (numberAmong before node.name) ++ [']']) := by
    rw [toList_path, steps_inside, List.map_append, List.map_singleton, segment,
      intercalate_append_last, List.cons_append]
  have hnumber : '[' ∉ Nat.toDigits 10 (numberAmong before node.name) ++ [']'] :=
    notMem_number (by decide) (by decide) _
  rw [stem, hpath, Text.cutLast?_of_notMem hnumber]

/-! ## The node of a way -/

/-- A spot with its true siblings, and so all around it. -/
def Fits : Spot → Prop
  | top _ => True
  | inside parent before node after =>
    parent.Fits ∧ parent.node.children.toList = before.reverse ++ node :: after.toList

private theorem fits_of_mem_within {parent spot : Spot} {before : List Node} {forest : Forest}
    (hparent : parent.Fits)
    (hrow : parent.node.children.toList = before.reverse ++ forest.toList)
    (h : spot ∈ within parent before forest) : spot.Fits := by
  induction forest generalizing parent before with
  | nil => cases h
  | leaf id content next ih =>
    rcases List.mem_cons.1 h with rfl | h
    · exact ⟨hparent, hrow⟩
    · exact ih hparent (by rw [hrow]; simp [Forest.toList]) h
  | element id tag children next ihc ihn =>
    have hhere : (inside parent before (.element id tag children) next).Fits := ⟨hparent, hrow⟩
    rcases List.mem_cons.1 h with rfl | h
    · exact hhere
    · rcases List.mem_append.1 h with h | h
      · exact ihc hhere rfl h
      · exact ihn hparent (by rw [hrow]; simp [Forest.toList]) h

theorem fits_of_mem_descendants {spot below : Spot} (hspot : spot.Fits)
    (h : below ∈ spot.descendants) : below.Fits :=
  fits_of_mem_within hspot rfl h

theorem fits_of_mem_spots {dom : Dom} {spot : Spot} (h : spot ∈ dom.spots) : spot.Fits := by
  obtain ⟨node, _, h⟩ := List.mem_flatMap.1 h
  rcases List.mem_cons.1 h with rfl | h
  · trivial
  · have htop : (top node).Fits := trivial
    exact fits_of_mem_descendants htop h

/-- Two places in a row have the same number among what is counted only if they are the same. -/
private theorem eq_of_countP_eq {α : Type} {counts : α → Bool} {front back front' back' : List α}
    {a b : α} (h : front ++ a :: back = front' ++ b :: back') (ha : counts a = true)
    (hb : counts b = true) (hcount : front.countP counts = front'.countP counts) : a = b := by
  have hlength : front.length = front'.length := by
    rcases List.append_eq_append_iff.1 h with ⟨more, rfl, hmore⟩ | ⟨more, rfl, hmore⟩
    · cases more with
      | nil => simp
      | cons c more =>
        obtain ⟨rfl, -⟩ := List.cons.inj hmore
        simp [List.countP_append, ha] at hcount
    · cases more with
      | nil => simp
      | cons c more =>
        obtain ⟨rfl, -⟩ := List.cons.inj hmore
        simp [List.countP_append, hb] at hcount
  exact (List.cons.inj (List.append_inj h hlength).2).1

theorem length_steps (spot : Spot) :
    spot.steps.length = spot.ancestors.length + spot.root.steps.length := by
  induction spot with
  | top node => simp [ancestors, root]
  | inside parent before node after ih =>
    rw [steps_inside, ancestors_inside, List.length_append, ih, List.length_singleton,
      List.length_cons, root, Nat.add_right_comm]

theorem isElement_parent {parent : Spot} {before : List Node} {node : Node} {after : Forest}
    (h : (inside parent before node after).Fits) : parent.isElement = true := by
  rw [isElement]
  cases hparent : parent.node with
  | leaf id content =>
    have hrow := h.2
    rw [hparent] at hrow
    simp [Node.children, Forest.toList] at hrow
  | element id tag children => rfl

/-- An element of a tree is told by the steps to it. -/
theorem node_eq_of_steps {spot other : Spot} (hs : spot.Fits) (ho : other.Fits)
    (helement : spot.isElement = true) (helement' : other.isElement = true)
    (hroot : spot.root = other.root) (h : spot.steps = other.steps) : spot.node = other.node := by
  have hdepth : spot.ancestors.length = other.ancestors.length := by
    have hlength := congrArg List.length h
    rw [length_steps spot, length_steps other, hroot] at hlength
    exact Nat.add_right_cancel hlength
  induction spot generalizing other with
  | top node =>
    cases other with
    | top node' => exact congrArg Spot.node hroot
    | inside parent' before' node' after' => cases hdepth
  | inside parent before node after ih =>
    cases other with
    | top node' => cases hdepth
    | inside parent' before' node' after' =>
      rw [steps_inside, steps_inside] at h
      obtain ⟨hparents, hstep⟩ := List.append_inj' h rfl
      obtain ⟨hname, hnumber⟩ := Prod.mk.inj (List.cons.inj hstep).1
      have hsame := ih hs.1 ho.1 (isElement_parent hs) (isElement_parent ho) hroot hparents
        (Nat.succ.inj hdepth)
      have hrow : before.reverse ++ node :: after.toList =
          before'.reverse ++ node' :: after'.toList := by
        rw [← hs.2, ← ho.2, hsame]
      have hcount := Nat.add_left_cancel hnumber
      rw [← hname, ← List.countP_reverse, ← @List.countP_reverse _ _ before'] at hcount
      refine eq_of_countP_eq hrow ?_ ?_ hcount
      · rw [Bool.and_eq_true]
        exact ⟨helement, beq_self_eq_true _⟩
      · rw [Bool.and_eq_true]
        exact ⟨helement', beq_iff_eq.2 hname.symm⟩

/-! ## Stems -/

/-- Is there no slash in the names on the way to a spot? -/
def IsSlashless (spot : Spot) : Prop :=
  ∀ above ∈ spot :: spot.ancestors, '/' ∉ above.node.name.toList

theorem exists_of_mem_steps {spot : Spot} {step : String × Nat} (h : step ∈ spot.steps) :
    ∃ above ∈ spot :: spot.ancestors, step.1 = above.node.name := by
  induction spot with
  | top node =>
    rw [steps] at h
    split at h
    · rw [List.mem_singleton.1 h]
      exact ⟨top node, List.mem_cons_self, rfl⟩
    · cases h
  | inside parent before node after ih =>
    rw [steps_inside] at h
    rcases List.mem_append.1 h with h | h
    · obtain ⟨above, habove, hname⟩ := ih h
      exact ⟨above, List.mem_cons_of_mem _ habove, hname⟩
    · rw [List.mem_singleton.1 h]
      exact ⟨_, List.mem_cons_self, rfl⟩

private theorem slash_notMem_stem {parent : Spot} {before : List Node} {node : Node} {after : Forest}
    (h : (inside parent before node after).IsSlashless) :
    ∀ piece ∈ parent.steps.map segment ++ [node.name.toList], '/' ∉ piece := by
  intro piece hpiece
  rcases List.mem_append.1 hpiece with hpiece | hpiece
  · obtain ⟨step, hstep, rfl⟩ := List.mem_map.1 hpiece
    obtain ⟨above, habove, hname⟩ := exists_of_mem_steps hstep
    refine slash_notMem_segment ?_
    rw [hname]
    exact h above (List.mem_cons_of_mem _ habove)
  · rw [List.mem_singleton.1 hpiece]
    exact h _ List.mem_cons_self

/-- Nodes have the same stem just when the steps to what holds them are the same and so are their
names. -/
theorem stem_eq_stem_iff {parent parent' : Spot} {before before' : List Node} {node node' : Node}
    {after after' : Forest} (hslash : (inside parent before node after).IsSlashless)
    (hslash' : (inside parent' before' node' after').IsSlashless) :
    (inside parent before node after).stem = (inside parent' before' node' after').stem ↔
      parent.steps = parent'.steps ∧ node.name = node'.name := by
  rw [stem_inside, stem_inside, List.cons.injEq]
  constructor
  · rintro ⟨-, h⟩
    have hpieces := eq_of_intercalate_eq (slash_notMem_stem hslash) (slash_notMem_stem hslash')
      (by simp) (by simp) h
    obtain ⟨hsteps, hnames⟩ := List.append_inj' hpieces rfl
    exact ⟨segment_injective.list_map hsteps, String.toList_inj.1 (List.cons.inj hnames).1⟩
  · rintro ⟨hsteps, hname⟩
    rw [hsteps, hname]
    exact ⟨rfl, rfl⟩

end Spot

end PageBlocks
