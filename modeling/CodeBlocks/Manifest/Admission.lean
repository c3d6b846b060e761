/-
**Admission of drafts.**

A draft becomes a manifest if its dialect is known, its blocks have proper names, and each of its
nodes has exactly one kind with the parts that belong to it.  The first rule that is broken, in the
order of the document, refuses the draft.

Main definitions:

* `CodeBlocks.blockNameFault?` — the rule for names;
* `CodeBlocks.blockNameSpan?`, `CodeBlocks.dialectSpan?` — where a text names a block, or a dialect;
* `CodeBlocks.NodeDraft.admit` — the rules for nodes;
* `CodeBlocks.Draft.admit` — **the manifest of a draft**.
-/
import CodeBlocks.Manifest.Draft
import CodeBlocks.Manifest.Fault
import CodeBlocks.Text.Search

set_option relaxedAutoImplicit false
set_option autoImplicit false

namespace CodeBlocks

open Text (Span byteCount indexOf?)

/-! ### Names and places -/

def isNameStart (c : Char) : Bool := c.isAlpha || c = '_'

def isNamePart (c : Char) : Bool := c.isAlphanum || c = '_' || c = '-'

/-- **The rule for names of blocks** that a name breaks, if any. -/
def blockNameFault? (name : String) : Option NameFault :=
  match name.toList with
  | [] => some .empty
  | c :: cs =>
    if !isNameStart c then some .badStart
    else if !cs.all isNamePart then some .badCharacter
    else none

/-- The place of a name inside the first occurrence of a header. -/
def headerSpan? (source name header : List Char) : Option Span :=
  (indexOf? header source).map fun place =>
    let quote := if "\"]".toList.isSuffixOf header then 1 else 0
    Span.ofLength (place + byteCount header - 1 - byteCount name - quote) (byteCount name)

/-- **Where a text names a block** in a header: without quotation marks, or else with them. -/
def blockNameSpan? (source name : String) : Option Span :=
  let name := name.toList
  let source := source.toList
  headerSpan? source name ("[blocks.".toList ++ name ++ "]".toList)
    <|> headerSpan? source name ("[blocks.\"".toList ++ name ++ "\"]".toList)

/-- **Where a text gives a dialect**: in double quotation marks, or else in single ones. -/
def dialectSpan? (source value : String) : Option Span :=
  let value := value.toList
  let source := source.toList
  let start := "dialect = ".toList
  let within (mark : Char) : Option Span :=
    (indexOf? (start ++ mark :: value ++ [mark]) source).map fun place =>
      Span.ofLength (place + byteCount start + 1) (byteCount value)
  within '"' <|> within '\''

/-! ### Nodes -/

abbrev NodeRefusal : Type := NodePath × NodeFault

/-- A node without parts, if its draft has none. -/
def leafSpec (path : NodePath) (close : Option String) (nodes : Option (List NodeDraft))
    (spec : Except NodeRefusal NodeSpec) : Except NodeRefusal NodeSpec :=
  if close.isSome || nodes.isSome then .error (path, .partsOfScope) else spec

def statementSpec (path : NodePath) (text : String) : Except NodeRefusal NodeSpec :=
  if '\n' ∈ text.toList then .error (path, .severalLines) else .ok (.statement text)

mutual

/-- **The described node of a draft** that stands at a path. -/
def NodeDraft.admit (path : NodePath) : NodeDraft → Except NodeRefusal NodeSpec
  | ⟨some text, none, none, close, nodes⟩ => leafSpec path close nodes (statementSpec path text)
  | ⟨none, none, some text, close, nodes⟩ => leafSpec path close nodes (.ok (.verbatim text))
  | ⟨none, some header, none, close, none⟩ => .ok (.scope header close [])
  | ⟨none, some header, none, close, some nodes⟩ => do
    let inner ← NodeDraft.admitFrom path 0 nodes
    return .scope header close inner
  | ⟨none, none, none, _, _⟩ => .error (path, .noKind)
  | _ => .error (path, .severalKinds)

/-- The described nodes of drafts that stand below a path, from a position on. -/
def NodeDraft.admitFrom (path : NodePath) (position : Nat) :
    List NodeDraft → Except NodeRefusal (List NodeSpec)
  | [] => .ok []
  | node :: nodes => do
    let first ← node.admit (path ++ [position])
    let others ← NodeDraft.admitFrom path (position + 1) nodes
    return first :: others

end

/-! ### Manifests -/

def BlockDraft.admit (source name : String) (draft : BlockDraft) :
    Except ManifestFault BlockSpec :=
  match blockNameFault? name with
  | some fault => .error (.invalidName name fault (blockNameSpan? source name))
  | none =>
    match NodeDraft.admitFrom [] 0 draft.nodes with
    | .error (path, fault) =>
      .error (.invalidNode name path fault (blockNameSpan? source name))
    | .ok nodes => .ok ⟨draft.description, nodes⟩

def Settings.dialectFault? (source : String) (settings : Settings) : Option ManifestFault :=
  match settings.dialect with
  | none => none
  | some name =>
    if (Dialect.ofName? name).isSome then none
    else some (.unknownDialect name (dialectSpan? source name))

/-- The described blocks of drafts, added to those that are there. -/
def admitBlocks (source : String) :
    List (String × BlockDraft) → Catalog BlockSpec → Except ManifestFault (Catalog BlockSpec)
  | [], catalog => .ok catalog
  | (name, draft) :: drafts, catalog => do
    let spec ← draft.admit source name
    admitBlocks source drafts (catalog.insert name spec)

/-- **The manifest of a draft** that was read from a text. -/
def Draft.admit (source : String) (draft : Draft) : Except ManifestFault Manifest :=
  match draft.settings.dialectFault? source with
  | some fault => .error fault
  | none => do
    let blocks ← admitBlocks source draft.blocks.entries .empty
    return ⟨draft.settings, blocks⟩

end CodeBlocks
