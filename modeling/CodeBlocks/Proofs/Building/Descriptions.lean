/-
**Described blocks, built step by step.**

`CodeBlocks.BlockSpec.build` hands the dialect down to every node and puts the nested blocks
together from nodes that are ready.  The editing steps know nothing of dialects: they start from an
empty block, a statement takes the style of the block at hand, and the body of a scope takes both
separator and style from the block around it.  Here a described block is built a second time, node
after node, with these steps, and the two trees are the same.

What carries the agreement inwards is that the block at hand has the separator and the style of the
dialect.  Its child is then the empty block of the dialect, and so has them as well.

Main definitions:

* `CodeBlocks.NodeSpec.add`, `CodeBlocks.NodeSpec.addAll` — described nodes, added to the block at
  hand;
* `CodeBlocks.BlockSpec.assemble` — a described block, built up from the empty block of a dialect.

Main results:

* `CodeBlocks.NodeSpec.run_addAll` — **adding described nodes appends what they are built to**;
* `CodeBlocks.BlockSpec.build_eq_assemble` — **both ways build the same block**.
-/
import CodeBlocks.Manifest.Build
import Mathlib.Tactic.Common

set_option relaxedAutoImplicit false
set_option autoImplicit false

namespace CodeBlocks

/-! ### Adding described nodes -/

mutual

/-- **A described node, added to the block at hand.**  Only a scope with a closing line has a step
of its own.  One without is put together here from a child that is filled in the same way, and
takes the style of the block. -/
def NodeSpec.add : NodeSpec → Edit Unit
  | .statement text => Edit.statement text
  | .verbatim text => Edit.verbatim text
  | .scope header (some close) nodes => Edit.scope header close (NodeSpec.addAll nodes)
  | .scope header none nodes => do
    let outer ← get
    let (_, inner) := (NodeSpec.addAll nodes).run outer.child
    Edit.push (.scope { header, body := inner, indent := outer.indent })

def NodeSpec.addAll : List NodeSpec → Edit Unit
  | [] => return ()
  | node :: nodes => do
    node.add
    NodeSpec.addAll nodes

end

/-- **A described block, built up** from the empty block of a dialect. -/
def BlockSpec.assemble (dialect : Dialect) (spec : BlockSpec) : Block :=
  ((NodeSpec.addAll spec.nodes).run dialect.block).2

/-! ### Agreement -/

/-- Nodes at its end do not change what the child of a block is. -/
theorem Block.child_push (block : Block) (node : Node) :
    (block.push node).child = block.child := rfl

/-- The child of the empty block of a dialect is the empty block of the dialect. -/
theorem Dialect.child_block (dialect : Dialect) : dialect.block.child = dialect.block := rfl

/-- A block whose child is the empty block of a dialect has the style of the dialect. -/
theorem Block.indent_of_child {block : Block} {dialect : Dialect}
    (kept : block.child = dialect.block) : block.indent = dialect.indent :=
  congrArg Block.indent kept

mutual

-- The induction follows the description.  The invariant is that the child of the block at hand is
-- the empty block of the dialect.  It passes to the block after a node, and to the child.
/-- **Adding a described node pushes what it is built to.** -/
theorem NodeSpec.run_add {dialect : Dialect} :
    ∀ (node : NodeSpec) (block : Block), block.child = dialect.block →
      node.add.run block = ((), block.push (node.build dialect))
  | .statement text, block, kept => by
      have style := Block.indent_of_child kept
      change ((), block.push (.statement ⟨text, block.indent⟩)) = _
      rw [style]
      rfl
  | .verbatim text, block, _ => rfl
  | .scope header close nodes, block, kept => by
      have style := Block.indent_of_child kept
      have body : (NodeSpec.addAll nodes).run block.child =
          ((), dialect.block.append (NodeSpec.buildList dialect nodes)) := by
        rw [kept]
        exact NodeSpec.run_addAll nodes dialect.block dialect.child_block
      have whole : (NodeSpec.scope header close nodes).add.run block =
          ((), block.push (.scope ⟨header, ((NodeSpec.addAll nodes).run block.child).2, close,
            block.indent⟩)) := by
        cases close <;> rfl
      rw [whole, body, style]
      rfl

/-- **Adding described nodes appends what they are built to.** -/
theorem NodeSpec.run_addAll {dialect : Dialect} :
    ∀ (nodes : List NodeSpec) (block : Block), block.child = dialect.block →
      (NodeSpec.addAll nodes).run block =
        ((), block.append (NodeSpec.buildList dialect nodes))
  | [], block, _ => by
      rw [NodeSpec.buildList, block.append_nil]
      rfl
  | node :: nodes, block, kept => by
      have first := NodeSpec.run_add node block kept
      have others := NodeSpec.run_addAll nodes (block.push (node.build dialect))
        ((block.child_push _).trans kept)
      rw [NodeSpec.addAll, StateT.run_bind, first]
      change (NodeSpec.addAll nodes).run (block.push (node.build dialect)) = _
      rw [others, Block.push, Block.append_append]
      rfl

end

/-- **Both ways build the same block**: what the dialect is handed down to, and what the editing
steps leave when they start from the empty block of the dialect. -/
theorem BlockSpec.build_eq_assemble (dialect : Dialect) (spec : BlockSpec) :
    spec.build dialect = spec.assemble dialect := by
  rw [BlockSpec.assemble, NodeSpec.run_addAll spec.nodes dialect.block dialect.child_block]
  rfl

end CodeBlocks
