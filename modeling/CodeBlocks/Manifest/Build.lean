/-
**From described blocks to blocks.**

A dialect turns a described block into one that renders: it gives every statement and scope its
style, and every nested block its separator.

Main definitions:

* `CodeBlocks.NodeSpec.build`, `CodeBlocks.BlockSpec.build` — a description, in a dialect;
* `CodeBlocks.Manifest.buildAll`, `CodeBlocks.Manifest.build?` — all blocks of a manifest, and one.
-/
import CodeBlocks.Block.Builder
import CodeBlocks.Manifest

set_option relaxedAutoImplicit false
set_option autoImplicit false

namespace CodeBlocks

mutual

def NodeSpec.build (dialect : Dialect) : NodeSpec → Node
  | .statement text => .statement (dialect.statement text)
  | .verbatim text => .verbatim text
  | .scope header close nodes =>
    .scope ⟨header, dialect.block.append (NodeSpec.buildList dialect nodes), close, dialect.indent⟩

def NodeSpec.buildList (dialect : Dialect) : List NodeSpec → List Node
  | [] => []
  | node :: nodes => node.build dialect :: NodeSpec.buildList dialect nodes

end

/-- **A described block, in a dialect.** -/
def BlockSpec.build (dialect : Dialect) (spec : BlockSpec) : Block :=
  dialect.block.append (NodeSpec.buildList dialect spec.nodes)

/-- All blocks of a manifest in its own dialect, in order. -/
def Manifest.buildAll (manifest : Manifest) : Catalog Block :=
  manifest.blocks.map (BlockSpec.build manifest.settings.resolved)

def Manifest.build? (manifest : Manifest) (name : String) : Option Block :=
  (manifest.block? name).map (BlockSpec.build manifest.settings.resolved)

end CodeBlocks
