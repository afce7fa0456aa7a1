import Mathlib.Data.List.Forall2
import Mathlib.Data.String.Basic
import PageBlocks.Store.Basic
/-!
# The files of a store

The files with rules in a directory are those directly in it whose names have a certain ending.  Their
paths are listed in order, and each of them once if the directory has no two entries for one path.

## Main results

* `Folder.read?_filter` — what is left of a folder when files are taken out by their paths.
* `joinPath_lt_iff` — paths in one directory are ordered as the names in them.
* `Folder.mem_pathsIn` — which paths are listed.
* `Folder.pathsIn_sorted` — they are listed in order, and once.
-/

namespace PageBlocks

open Text

/-! ## Paths in a directory -/

theorem toList_joinPath (directory name : String) :
    (joinPath directory name).toList = (joinPath directory "").toList ++ name.toList := by
  unfold joinPath
  split <;> simp

theorem joinPath_injective {directory first second : String}
    (h : joinPath directory first = joinPath directory second) : first = second := by
  have hchars := congrArg String.toList h
  rw [toList_joinPath directory first, toList_joinPath directory second] at hchars
  exact String.toList_injective (List.append_cancel_left hchars)

theorem append_lt_append_iff (start : List Char) {first second : List Char} :
    start ++ first < start ++ second ↔ first < second := by
  induction start with
  | nil => rfl
  | cons c start ih => simp [ih]

/-- Paths in one directory are ordered as the names in them. -/
theorem joinPath_lt_iff {directory first second : String} :
    joinPath directory first < joinPath directory second ↔ first < second := by
  rw [String.lt_iff_toList_lt, String.lt_iff_toList_lt, toList_joinPath directory first,
    toList_joinPath directory second, append_lt_append_iff]

/-- Does a path lead into a directory? -/
def isInside (directory path : String) : Bool :=
  startsWith (joinPath directory "").toList path.toList

theorem isInside_iff {directory path : String} :
    isInside directory path = true ↔ ∃ name, path = joinPath directory name := by
  rw [isInside, startsWith, Option.isSome_iff_exists]
  constructor
  · rintro ⟨rest, hrest⟩
    refine ⟨String.ofList rest, String.toList_injective ?_⟩
    rw [dropLeading?_eq_some_iff.1 hrest, toList_joinPath directory (String.ofList rest),
      String.toList_ofList]
  · rintro ⟨name, rfl⟩
    exact ⟨name.toList, dropLeading?_eq_some_iff.2 (toList_joinPath directory name)⟩

/-- Is a path that of a file directly in a directory, with an ending? -/
def isDirectly (directory ending path : String) : Bool :=
  match dropLeading? (joinPath directory "").toList path.toList with
  | some name => !name.contains '/' && endsWith ending.toList name
  | none => false

theorem isDirectly_joinPath {directory ending name : String} :
    isDirectly directory ending (joinPath directory name) = true ↔
      '/' ∉ name.toList ∧ endsWith ending.toList name.toList = true := by
  rw [isDirectly, dropLeading?_eq_some_iff.2 (toList_joinPath directory name)]
  simp

theorem isInside_of_isDirectly {directory ending path : String}
    (h : isDirectly directory ending path = true) : isInside directory path = true := by
  unfold isDirectly at h
  split at h
  · next hname => rw [isInside, startsWith, hname]; rfl
  · cases h

theorem endsWith_append (text ending : List Char) : endsWith ending (text ++ ending) = true := by
  rw [endsWith, startsWith, Option.isSome_iff_exists]
  exact ⟨text.reverse, dropLeading?_eq_some_iff.2 List.reverse_append⟩

/-! ## Folders -/

namespace Folder

variable {folder : Folder} {path directory ending : String}

theorem mem_paths_iff : path ∈ folder.map (·.1) ↔ (folder.read? path).isSome = true := by
  rw [read?, Option.isSome_map, List.find?_isSome, List.mem_map]
  simp

/-- What is left when files are taken out by their paths. -/
theorem read?_filter (folder : Folder) (keep : String → Bool) (path : String) :
    read? (folder.filter fun entry => keep entry.1) path =
      if keep path then folder.read? path else none := by
  rw [read?, read?, List.find?_filter]
  split
  · next hkeep =>
    have htest : (fun entry : String × List UInt8 => decide (keep entry.1 = true ∧
        decide (entry.1 = path) = true)) = fun entry => decide (entry.1 = path) := by
      funext entry
      by_cases hpath : entry.1 = path <;> simp [hpath, hkeep]
    rw [htest]
  · next hdrop =>
    rw [Option.map_eq_none_iff, List.find?_eq_none]
    rintro entry - hentry
    simp only [decide_eq_true_eq] at hentry
    exact hdrop (hentry.2 ▸ hentry.1)

theorem remove_eq (folder : Folder) (path : String) :
    folder.remove path = folder.filter fun entry => decide (entry.1 ≠ path) := rfl

theorem read?_remove (folder : Folder) (path other : String) :
    (folder.remove path).read? other = if other = path then none else folder.read? other := by
  have hfilter := read?_filter folder (fun name => decide (name ≠ path)) other
  rw [← remove_eq] at hfilter
  rw [hfilter]
  by_cases h : other = path <;> simp [h]

theorem foldl_remove (folder : Folder) (paths : List String) :
    paths.foldl remove folder = folder.filter fun entry => decide (entry.1 ∉ paths) := by
  induction paths generalizing folder with
  | nil => simp
  | cons path paths ih =>
    rw [List.foldl_cons, ih, remove, List.filter_filter]
    refine List.filter_congr fun entry _ => ?_
    by_cases h : entry.1 = path <;> simp [h]

/-! ## Listed paths -/

theorem pathsIn_eq (folder : Folder) (directory ending : String) :
    folder.pathsIn directory ending = folder.paths.filter (isDirectly directory ending) := rfl

theorem paths_perm (folder : Folder) : folder.paths.Perm (folder.map (·.1)) :=
  List.mergeSort_perm _ _

theorem mem_pathsIn : path ∈ folder.pathsIn directory ending ↔
    (folder.read? path).isSome = true ∧ isDirectly directory ending path = true := by
  rw [pathsIn_eq, List.mem_filter, folder.paths_perm.mem_iff, mem_paths_iff]

theorem paths_sorted (folder : Folder) : folder.paths.Pairwise (· ≤ ·) := by
  have htrans (first second third : String) (hfirst : decide (first ≤ second) = true)
      (hsecond : decide (second ≤ third) = true) : decide (first ≤ third) = true :=
    decide_eq_true (le_trans (of_decide_eq_true hfirst) (of_decide_eq_true hsecond))
  have htotal (first second : String) :
      (decide (first ≤ second) || decide (second ≤ first)) = true := by
    simpa using le_total first second
  exact (List.pairwise_mergeSort htrans htotal (folder.map (·.1))).imp of_decide_eq_true

/-- The paths in a directory are listed in order, and once. -/
theorem pathsIn_sorted (h : ((folder.map (·.1)).filter (isInside directory)).Nodup) :
    (folder.pathsIn directory ending).Pairwise (· < ·) := by
  have hsorted : (folder.pathsIn directory ending).Pairwise (· ≤ ·) := by
    rw [pathsIn_eq]
    exact folder.paths_sorted.sublist List.filter_sublist
  have hnodup : (folder.pathsIn directory ending).Nodup := by
    have hless : (folder.pathsIn directory ending).Sublist (folder.paths.filter (isInside directory)) := by
      rw [pathsIn_eq]
      exact List.monotone_filter_right _ fun path hpath => isInside_of_isDirectly hpath
    exact ((folder.paths_perm.filter _).nodup_iff.2 h).sublist hless
  exact (hsorted.and hnodup).imp fun ⟨hle, hne⟩ => lt_of_le_of_ne hle hne

end Folder

end PageBlocks
