/-
**Which failure a block renders to.**

Only the leaves of custom code can fail.  They stand among the nodes of a block and inside its
scopes, and a custom node may hide more of them: it can be a block, a node, or a box around another
custom thing.  Here the leaves are listed in the order of the document, each with the number of
scopes around it, and the outcome of rendering is read off that list.

Main definitions:

* `CodeBlocks.Leaf` — a leaf, and how many scopes it is inside of;
* `CodeBlocks.Block.leaves`, `CodeBlocks.Renderable.leaves` — the leaves of a block, and of a custom
  node;
* `CodeBlocks.firstFailure?` — the failure of the first leaf that has one.

Main results:

* `CodeBlocks.Block.renderNodes_decided` — **nodes render unless a leaf fails**, and the first one
  that does decides;
* `CodeBlocks.Block.render_iff_leaves` — the same for a block, by its leaves alone.
-/
import CodeBlocks.Node.Leaf
import CodeBlocks.Node.Render
import CodeBlocks.Proofs.Outcome

set_option relaxedAutoImplicit false
set_option autoImplicit false

namespace CodeBlocks

/-! ### Leaves -/

/-- **A leaf of custom code**, and how many scopes it is inside of. -/
structure Leaf where
  code : Nat → Except RenderError String
  depth : Nat := 0

namespace Leaf

/-- The leaf as it is seen from outside of one more scope. -/
def deeper (leaf : Leaf) : Leaf := { leaf with depth := leaf.depth + 1 }

/-- What a leaf gives if the tree around it is rendered at a level: each scope adds one. -/
def codeAt (leaf : Leaf) (level : Nat) : Except RenderError String :=
  leaf.code (level + leaf.depth)

/-- Whether a leaf has a text if the tree around it is rendered at a level. -/
def Succeeds (level : Nat) (leaf : Leaf) : Prop := ∃ text, leaf.codeAt level = .ok text

def failure? (level : Nat) (leaf : Leaf) : Option RenderError :=
  match leaf.codeAt level with
  | .ok _ => none
  | .error error => some error

theorem failure?_deeper (level : Nat) (leaf : Leaf) :
    leaf.deeper.failure? level = leaf.failure? (level + 1) := by
  have same : level + (leaf.depth + 1) = level + 1 + leaf.depth := by omega
  rw [failure?, failure?, codeAt, codeAt, deeper, same]

theorem failure?_eq_some_iff {level : Nat} {leaf : Leaf} {error : RenderError} :
    leaf.failure? level = some error ↔ leaf.codeAt level = .error error := by
  unfold failure?
  cases leaf.codeAt level <;> simp

theorem failure?_eq_none_iff {level : Nat} {leaf : Leaf} :
    leaf.failure? level = none ↔ leaf.Succeeds level := by
  unfold failure? Succeeds
  cases leaf.codeAt level <;> simp

theorem codeAt_decided (level : Nat) (leaf : Leaf) :
    Decided (leaf.failure? level) (fun _ => True) (leaf.codeAt level) := by
  unfold failure?
  cases leaf.codeAt level with
  | ok text => exact Decided.ok trivial
  | error error => exact Decided.error error _

end Leaf

mutual

/-- **The leaves of a block**, in the order of the document. -/
def Block.leaves : Block → List Leaf
  | ⟨nodes, _, _⟩ => Block.leavesOf nodes

def Block.leavesOf : List Node → List Leaf
  | [] => []
  | node :: nodes => node.leaves ++ Block.leavesOf nodes

def Node.leaves : Node → List Leaf
  | .statement _ => []
  | .scope nested => nested.leaves
  | .verbatim _ => []
  | .custom thing => thing.leaves

/-- The leaves of a scope.  It stands around all leaves of its body. -/
def Scope.leaves : Scope → List Leaf
  | ⟨_, body, _, _⟩ => body.leaves.map Leaf.deeper

/-- **The leaves of a custom node.**  A block, a node or a box in its place is no scope. -/
def Renderable.leaves : Renderable → List Leaf
  | .leaf code => [{ code }]
  | .block inner => inner.leaves
  | .node inner => inner.leaves
  | .boxed inner => inner.leaves

end

/-! ### The first failure -/

/-- **The failure of the first leaf that has one**, if the tree is rendered at a level. -/
def firstFailure? (level : Nat) (leaves : List Leaf) : Option RenderError :=
  leaves.findSome? (Leaf.failure? level)

theorem firstFailure?_append (level : Nat) (leaves others : List Leaf) :
    firstFailure? level (leaves ++ others) =
      (firstFailure? level leaves).or (firstFailure? level others) :=
  List.findSome?_append

/-- Inside of a scope everything is one level further in. -/
theorem firstFailure?_deeper (level : Nat) (leaves : List Leaf) :
    firstFailure? level (leaves.map Leaf.deeper) = firstFailure? (level + 1) leaves := by
  induction leaves with
  | nil => rfl
  | cons leaf leaves ih =>
      simp only [firstFailure?, List.map_cons, List.findSome?_cons, Leaf.failure?_deeper] at ih ⊢
      rw [ih]

/-! ### Rendering -/

mutual

-- The induction follows the tree, through the custom nodes as well.  A block, a node or a box that
-- stands for a custom node hands its own outcome on, so only scopes change the level.
/-- **Nodes are decided** by the first leaf among them that fails. -/
theorem Block.renderNodes_decided (separator : String) :
    ∀ (nodes : List Node) (level : Nat),
      Decided (firstFailure? level (Block.leavesOf nodes)) (fun _ => True)
        (Block.renderNodes separator nodes level)
  | [], level => Decided.ok trivial
  | node :: nodes, level => by
      have first := Node.code_decided node level
      have others := Block.renderNodes_decided separator nodes level
      rw [Block.leavesOf, firstFailure?_append, Block.renderNodes]
      exact first.bind fun text _ => others.map fun more _ => trivial

theorem Node.code_decided :
    ∀ (node : Node) (level : Nat),
      Decided (firstFailure? level node.leaves) (fun _ => True) (node.code level)
  | .statement line, level => Decided.ok trivial
  | .scope ⟨header, ⟨nodes, separator, style⟩, close, indent⟩, level => by
      have body := Block.renderNodes_decided separator nodes (level + 1)
      rw [Node.leaves, Scope.leaves, firstFailure?_deeper, Node.code, Scope.code]
      exact body.map fun inner _ => trivial
  | .verbatim text, level => Decided.ok trivial
  | .custom thing, level => Renderable.code_decided thing level

theorem Renderable.code_decided :
    ∀ (thing : Renderable) (level : Nat),
      Decided (firstFailure? level thing.leaves) (fun _ => True) (thing.code level)
  | .leaf code, level => by
      have only : firstFailure? level [{ code }] = Leaf.failure? level { code } := by
        simp [firstFailure?]
      rw [Renderable.leaves, only]
      exact Leaf.codeAt_decided level { code }
  | .block ⟨nodes, separator, style⟩, level => Block.renderNodes_decided separator nodes level
  | .node inner, level => Node.code_decided inner level
  | .boxed inner, level => Renderable.code_decided inner level

end

/-- **A block is decided** by the first of its leaves that fails. -/
theorem Block.render_decided (block : Block) (level : Nat) :
    Decided (firstFailure? level block.leaves) (fun _ => True) (block.render level) := by
  obtain ⟨nodes, separator, style⟩ := block
  exact Block.renderNodes_decided separator nodes level

/-- **A block renders exactly if each of its leaves has a text**, and else it fails with what the
first leaf without one says, as that leaf says it. -/
theorem Block.render_iff_leaves (block : Block) (level : Nat) :
    ((∃ text, block.render level = .ok text) ↔ ∀ leaf ∈ block.leaves, leaf.Succeeds level) ∧
      ∀ error, block.render level = .error error ↔
        ∃ before leaf after, block.leaves = before ++ leaf :: after ∧
          (∀ earlier ∈ before, earlier.Succeeds level) ∧ leaf.codeAt level = .error error := by
  have decided := block.render_decided level
  constructor
  · rw [decided.ok_iff, firstFailure?, List.findSome?_eq_none_iff]
    simp only [Leaf.failure?_eq_none_iff]
  · intro error
    rw [decided.error_iff, firstFailure?, List.findSome?_eq_some_iff]
    simp only [Leaf.failure?_eq_none_iff, Leaf.failure?_eq_some_iff]
    constructor
    · rintro ⟨before, leaf, after, split, failed, succeed⟩
      exact ⟨before, leaf, after, split, succeed, failed⟩
    · rintro ⟨before, leaf, after, split, succeed, failed⟩
      exact ⟨before, leaf, after, split, failed, succeed⟩

end CodeBlocks
