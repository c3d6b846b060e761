/-
**Building blocks, by chaining and in place.**

A block only ever grows at its end.  There are two ways to write that down.  Chaining maps a block
to a larger one, and the body of a scope is built by a map from the empty child to the filled one.
Editing acts on a block that is the current state, and the body of a scope is an editing program of
its own, run on the child.

Main definitions:

* `CodeBlocks.Block.append`, `CodeBlocks.Block.push`, `CodeBlocks.Block.child`,
  `CodeBlocks.Block.restyle` — what both ways rest on;
* `CodeBlocks.Block.statement`, `CodeBlocks.Block.verbatim`, `CodeBlocks.Block.custom`,
  `CodeBlocks.Block.scope`, `CodeBlocks.Block.when`, `CodeBlocks.Block.each` — chaining;
* `CodeBlocks.Block.scopeWith`, `CodeBlocks.Block.eachWith` — chaining with answers handed on;
* `CodeBlocks.Edit` and its actions — editing in place.

Main results:

* `CodeBlocks.Block.nodes_push` — growth at the end only;
* `CodeBlocks.Block.append_append` — growth twice is growth once.
-/
import CodeBlocks.Node

set_option relaxedAutoImplicit false
set_option autoImplicit false

namespace CodeBlocks

namespace Block

/-! ### Growth -/

def append (block : Block) (nodes : List Node) : Block :=
  { block with nodes := block.nodes ++ nodes }

def push (block : Block) (node : Node) : Block := block.append [node]

def child (block : Block) : Block :=
  { separator := block.separator, indent := block.indent }

def restyle (block : Block) (indent : Indent) : Block := { block with indent }

@[simp] theorem nodes_push (block : Block) (node : Node) :
    (block.push node).nodes = block.nodes ++ [node] := rfl

@[simp] theorem append_nil (block : Block) : block.append [] = block := by
  cases block
  simp [append]

theorem append_append (block : Block) (nodes more : List Node) :
    (block.append nodes).append more = block.append (nodes ++ more) := by
  rw [append, append, append, List.append_assoc]

/-! ### Chaining -/

def statement (block : Block) (text : String) : Block :=
  block.push (.statement ⟨text, block.indent⟩)

def verbatim (block : Block) (text : String) : Block := block.push (.verbatim text)

def custom (block : Block) (thing : Renderable) : Block := block.push (.custom thing)

/-- **The block with a scope**, whose body is the child as `fill` leaves it.  What else `fill`
answers is handed on. -/
def scopeWith {α : Type} (block : Block) (header close : String) (fill : Block → α × Block) :
    α × Block :=
  let (answer, body) := fill block.child
  (answer, block.push (.scope ⟨header, body, some close, block.indent⟩))

def scope (block : Block) (header close : String) (fill : Block → Block) : Block :=
  (block.scopeWith header close fun inner => ((), fill inner)).2

/-- The block after `more`, under a condition. -/
def when (block : Block) (condition : Bool) (more : Block → Block) : Block :=
  if condition then more block else block

def each {α : Type} (block : Block) (items : List α) (more : Block → α → Block) : Block :=
  items.foldl more block

/-- **The block after `more` for each item in turn.**  What else `more` answers is handed on, one
answer for each item. -/
def eachWith {α β : Type} (block : Block) (items : List α) (more : Block → α → β × Block) :
    List β × Block :=
  match items with
  | [] => ([], block)
  | item :: items =>
    let (answer, block) := more block item
    let (answers, block) := block.eachWith items more
    (answer :: answers, block)

/-- Apart from the answers, it is the block after `more` for each item. -/
theorem snd_eachWith {α β : Type} (block : Block) (items : List α)
    (more : Block → α → β × Block) :
    (block.eachWith items more).2 = block.each items fun b item => (more b item).2 := by
  induction items generalizing block with
  | nil => rfl
  | cons item items ih => exact ih (more block item).2

end Block

/-! ### Editing in place -/

/-- **An editing program**: it acts on the block at hand and answers something. -/
abbrev Edit (α : Type) : Type := StateM Block α

namespace Edit

def push (node : Node) : Edit Unit := modify fun block => block.push node

def append (nodes : List Node) : Edit Unit := modify fun block => block.append nodes

/-- Change the style for what is added from now on. -/
def restyle (indent : Indent) : Edit Unit := modify fun block => block.restyle indent

def statement (text : String) : Edit Unit := do
  push (.statement ⟨text, (← get).indent⟩)

def verbatim (text : String) : Edit Unit := push (.verbatim text)

def custom (thing : Renderable) : Edit Unit := push (.custom thing)

/-- **Add a scope**, whose body a program of its own builds on an empty child. -/
def scope {α : Type} (header close : String) (body : Edit α) : Edit α := do
  let outer ← get
  let (answer, inner) := body.run outer.child
  push (.scope ⟨header, inner, some close, outer.indent⟩)
  return answer

def each {α : Type} (items : List α) (text : α → String) : Edit Unit :=
  items.forM fun item => statement (text item)

end Edit

end CodeBlocks
