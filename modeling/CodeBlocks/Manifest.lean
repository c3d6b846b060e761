/-
**Manifests.**

A manifest describes named blocks and the settings they are rendered with.  The tree of a described
block has statements, verbatim text and scopes, and nothing else.

Main definitions:

* `CodeBlocks.Settings`, `CodeBlocks.NodeSpec`, `CodeBlocks.BlockSpec`, `CodeBlocks.Manifest` — what
  a manifest says;
* `CodeBlocks.BlockSpec.total` — the number of nodes at all depths.
-/
import CodeBlocks.Catalog
import CodeBlocks.Dialect

set_option relaxedAutoImplicit false
set_option autoImplicit false

namespace CodeBlocks

/-- **How blocks are rendered.**  The separator and the style override those of the dialect. -/
structure Settings where
  dialect : Option String := none
  separator : Option String := none
  indent : Option Indent := none
  baseIndent : Nat := 0
deriving DecidableEq, Repr

/-- **A described node.** -/
inductive NodeSpec where
  | statement (text : String)
  | verbatim (text : String)
  | scope (header : String) (close : Option String) (nodes : List NodeSpec)

/-- **A described block.** -/
structure BlockSpec where
  description : Option String := none
  nodes : List NodeSpec := []

instance : Inhabited BlockSpec := ⟨{}⟩

/-- **A manifest.** -/
structure Manifest where
  settings : Settings := {}
  blocks : Catalog BlockSpec := .empty

/-! ### Counting -/

mutual

def NodeSpec.total : NodeSpec → Nat
  | .statement _ => 1
  | .verbatim _ => 1
  | .scope _ _ nodes => 1 + NodeSpec.totals nodes

def NodeSpec.totals : List NodeSpec → Nat
  | [] => 0
  | node :: nodes => node.total + NodeSpec.totals nodes

end

/-- **The number of nodes at all depths.** -/
def BlockSpec.total (spec : BlockSpec) : Nat := NodeSpec.totals spec.nodes

/-! ### Looking up -/

/-- The dialect that settings stand for: the preset of the given name, or the plain one, with the
overrides. -/
def Settings.resolved (settings : Settings) : Dialect :=
  let base := (settings.dialect.bind Dialect.ofName?).getD .plain
  let base := match settings.separator with
    | some separator => base.withSeparator separator
    | none => base
  match settings.indent with
  | some indent => base.withIndent indent
  | none => base

def Manifest.block? (manifest : Manifest) (name : String) : Option BlockSpec :=
  manifest.blocks.find? name

def Manifest.blockNames (manifest : Manifest) : List String := manifest.blocks.names

end CodeBlocks
