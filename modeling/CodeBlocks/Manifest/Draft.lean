/-
**Drafts of manifests.**

A draft holds what a document says under the names of the manifest's fields, before anything is
asked about it beyond the types.

Main definitions:

* `CodeBlocks.NodeDraft`, `CodeBlocks.BlockDraft`, `CodeBlocks.Draft`.
-/
import CodeBlocks.Manifest

set_option relaxedAutoImplicit false
set_option autoImplicit false

namespace CodeBlocks

/-- **What a document says of a node.**  Any of the fields can be missing. -/
structure NodeDraft where
  statement : Option String := none
  scope : Option String := none
  verbatim : Option String := none
  close : Option String := none
  nodes : Option (List NodeDraft) := none

structure BlockDraft where
  description : Option String := none
  nodes : List NodeDraft := []

/-- **What a document says.** -/
structure Draft where
  settings : Settings := {}
  blocks : Catalog BlockDraft := .empty

end CodeBlocks
