/-
**What can be wrong with a manifest.**

Main definitions:

* `CodeBlocks.NodePath` — the way to a node, by positions;
* `CodeBlocks.NodeFault`, `CodeBlocks.NameFault` — broken rules;
* `CodeBlocks.ManifestFault` — everything that can be wrong;
* `CodeBlocks.ManifestFault.message`, `CodeBlocks.ManifestFault.code?`,
  `CodeBlocks.ManifestFault.help?`, `CodeBlocks.ManifestFault.label?` — its words, its code, what to
  do about it, and the place it points at.
-/
import CodeBlocks.Decode.Fault
import CodeBlocks.Dialect
import CodeBlocks.FileTree.Fault
import CodeBlocks.Toml.Fault

set_option relaxedAutoImplicit false
set_option autoImplicit false

namespace CodeBlocks

open Text (Span)

/-! ### Nodes -/

/-- **The way to a node** of a block: its position among the nodes of the block, its position among
the nodes of that scope, and so on. -/
abbrev NodePath : Type := List Nat

def NodePath.words (path : NodePath) : String :=
  ".".intercalate (path.map fun position => s!"nodes[{position}]")

/-- **The rules for nodes**, in the order in which they are asked. -/
inductive NodeFault where
  | noKind
  | severalKinds
  | partsOfScope
  | severalLines
deriving DecidableEq, Repr

def NodeFault.words : NodeFault → String
  | noKind => "node has no 'statement', 'scope' or 'verbatim' key"
  | severalKinds => "node has more than one of 'statement', 'scope' and 'verbatim'"
  | partsOfScope => "'close' and 'nodes' are only allowed on scopes"
  | severalLines => "statements must be a single line; use 'verbatim' for multi-line text"

/-! ### Names -/

/-- **The rules for names of blocks.** -/
inductive NameFault where
  | empty
  | badStart
  | badCharacter
deriving DecidableEq, Repr

def NameFault.words : NameFault → String
  | empty => "name cannot be empty"
  | badStart => "name must start with a letter or underscore"
  | badCharacter =>
    "name contains characters other than letters, numbers, underscores and dashes"

/-! ### Manifests -/

/-- **What can be wrong with a manifest.**  A place is given if it was found in the text. -/
inductive ManifestFault where
  | unreadable (path : String) (fault : IoFault)
  | notToml (fault : Toml.SyntaxFault)
  | badFields (failure : Decode.Failure)
  | unknownDialect (name : String) (span : Option Span)
  | invalidName (name : String) (fault : NameFault) (span : Option Span)
  | invalidNode (block : String) (path : NodePath) (fault : NodeFault) (span : Option Span)
deriving DecidableEq, Repr

namespace ManifestFault

def availableDialects : String := ", ".intercalate Dialect.presetNames

/-- **The words for a fault.** -/
def message : ManifestFault → String
  | unreadable path _ => s!"failed to read '{path}'"
  | notToml _ => "failed to parse stanza.toml"
  | badFields _ => "failed to parse stanza.toml"
  | unknownDialect name _ => s!"unknown dialect '{name}'"
  | invalidName name _ _ => s!"invalid block name '{name}'"
  | invalidNode block path fault _ =>
    s!"invalid node {path.words} in block '{block}': {fault.words}"

def code? : ManifestFault → Option String
  | unreadable _ _ => none
  | notToml _ => some "stanza::parse_error"
  | badFields _ => some "stanza::parse_error"
  | unknownDialect _ _ => some "stanza::unknown_dialect"
  | invalidName _ _ _ => some "stanza::invalid_block_name"
  | invalidNode _ _ _ _ => some "stanza::invalid_node"

def help? : ManifestFault → Option String
  | unreadable _ _ => some "create a stanza.toml or pass its path with --config"
  | notToml _ => none
  | badFields _ => none
  | unknownDialect _ _ => some ("available dialects are: " ++ availableDialects)
  | invalidName _ fault _ =>
    some (fault.words ++ ". Use only letters, numbers, underscores and dashes, " ++
      "starting with a letter or underscore.")
  | invalidNode _ _ _ _ =>
    some ("each node needs exactly one of 'statement', 'scope' or 'verbatim'; " ++
      "'close' and 'nodes' belong to scopes")

/-- **The place a fault points at**, and what is written next to it. -/
def label? : ManifestFault → Option (String × Span)
  | unreadable _ _ => none
  | notToml _ => none
  | badFields failure => some ("parse error here", failure.span)
  | unknownDialect _ span => span.map fun place => ("unknown dialect", place)
  | invalidName _ _ span => span.map fun place => ("invalid name", place)
  | invalidNode _ _ _ span => span.map fun place => ("in this block", place)

/-- Whether there is a text that the fault is about. -/
def concernsText : ManifestFault → Bool
  | unreadable _ _ => false
  | _ => true

end ManifestFault

/-- **A manifest that was refused**, with the name of the text it stands in. -/
structure Refusal where
  fault : ManifestFault
  source : String
deriving DecidableEq, Repr

/-- The name of the text that the fault is about. -/
def Refusal.sourceName? (refusal : Refusal) : Option String :=
  if refusal.fault.concernsText then some refusal.source else none

end CodeBlocks
