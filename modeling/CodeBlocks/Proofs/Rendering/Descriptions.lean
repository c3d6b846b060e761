/-
**The chunks of described blocks.**

A described block is built in a dialect and then rendered.  The block that is built has no custom
nodes, so it renders to its chunks at every level, and the chunks can be told from the description
alone: a statement has the separator of the dialect behind it however deep it stands, and everything
else has not.  The separator may therefore be moved into the statements themselves.

Main definitions:

* `CodeBlocks.NodeSpec.chunks`, `CodeBlocks.BlockSpec.chunks` — the chunks of a described node and
  of a described block, in a dialect and at a level;
* `CodeBlocks.NodeSpec.withInner`, `CodeBlocks.BlockSpec.allNodes` — the described nodes at all
  depths;
* `CodeBlocks.NodeSpec.mapStatements`, `CodeBlocks.BlockSpec.mapStatements` — a description with
  other texts in its statements.

Main results:

* `CodeBlocks.NodeSpec.chunks_scope` — a described scope is one empty chunk or a frame around the
  chunks of its nodes;
* `CodeBlocks.BlockSpec.render_eq_chunks` — **a described block renders to its chunks**;
* `CodeBlocks.BlockSpec.render_withSeparator` — **the separator stands behind every statement and
  nowhere else**.
-/
import CodeBlocks.Manifest.Build
import CodeBlocks.Proofs.Rendering.Chunks

set_option relaxedAutoImplicit false
set_option autoImplicit false

namespace CodeBlocks

variable {dialect : Dialect}

/-! ### Nodes at all depths -/

mutual

/-- **A described node and all nodes inside it**, each before those that are inside it. -/
def NodeSpec.withInner : NodeSpec → List NodeSpec
  | .statement text => [.statement text]
  | .verbatim text => [.verbatim text]
  | .scope header close nodes => .scope header close nodes :: NodeSpec.allWithInner nodes

def NodeSpec.allWithInner : List NodeSpec → List NodeSpec
  | [] => []
  | node :: nodes => node.withInner ++ NodeSpec.allWithInner nodes

end

/-- **The nodes of a described block at all depths.** -/
def BlockSpec.allNodes (spec : BlockSpec) : List NodeSpec := NodeSpec.allWithInner spec.nodes

/-! ### Chunks -/

def NodeSpec.chunks (dialect : Dialect) (node : NodeSpec) (level : Nat) : List String :=
  (node.build dialect).chunks dialect.separator level

def NodeSpec.chunksOf (dialect : Dialect) (nodes : List NodeSpec) (level : Nat) : List String :=
  Block.chunksOf dialect.separator (NodeSpec.buildList dialect nodes) level

/-- **The chunks of a described block** in a dialect, at a level. -/
def BlockSpec.chunks (dialect : Dialect) (spec : BlockSpec) (level : Nat) : List String :=
  NodeSpec.chunksOf dialect spec.nodes level

@[simp] theorem NodeSpec.chunks_statement (text : String) (level : Nat) :
    (NodeSpec.statement text).chunks dialect level =
      [dialect.indent.lead level ++ text ++ dialect.separator] := rfl

@[simp] theorem NodeSpec.chunks_verbatim (text : String) (level : Nat) :
    (NodeSpec.verbatim text).chunks dialect level = [text] := rfl

@[simp] theorem NodeSpec.chunksOf_nil (level : Nat) :
    NodeSpec.chunksOf dialect [] level = [] := rfl

@[simp] theorem NodeSpec.chunksOf_cons (node : NodeSpec) (nodes : List NodeSpec) (level : Nat) :
    NodeSpec.chunksOf dialect (node :: nodes) level =
      node.chunks dialect level ++ NodeSpec.chunksOf dialect nodes level := rfl

theorem NodeSpec.buildList_eq_nil_iff (dialect : Dialect) (nodes : List NodeSpec) :
    NodeSpec.buildList dialect nodes = [] ↔ nodes = [] := by
  cases nodes <;> simp [NodeSpec.buildList]

/-- **A described scope** is one empty chunk if there is nothing to it, and else a frame around the
chunks of its nodes, one level further in. -/
theorem NodeSpec.chunks_scope (header : String) (close : Option String) (nodes : List NodeSpec)
    (level : Nat) :
    (NodeSpec.scope header close nodes).chunks dialect level =
      if header = "" ∧ nodes = [] ∧ close = none then [""]
      else Scope.frame header close (dialect.indent.lead level)
        (NodeSpec.chunksOf dialect nodes (level + 1)) := by
  simp only [← NodeSpec.buildList_eq_nil_iff dialect nodes]
  rfl

/-! ### Rendering -/

mutual

theorem NodeSpec.customs_build :
    ∀ (node : NodeSpec) (level : Nat), (node.build dialect).customs level = []
  | .statement _, _ => rfl
  | .verbatim _, _ => rfl
  | .scope _ _ nodes, level => NodeSpec.customsOf_buildList nodes (level + 1)

theorem NodeSpec.customsOf_buildList :
    ∀ (nodes : List NodeSpec) (level : Nat),
      Block.customsOf (NodeSpec.buildList dialect nodes) level = []
  | [], _ => rfl
  | node :: nodes, level => by
      rw [NodeSpec.buildList, Block.customsOf, NodeSpec.customs_build node level,
        NodeSpec.customsOf_buildList nodes level, List.nil_append]

end

/-- **A described block renders to its chunks**, each with one line end behind it. -/
theorem BlockSpec.render_eq_chunks (dialect : Dialect) (spec : BlockSpec) (level : Nat) :
    (spec.build dialect).render level = .ok (terminated (spec.chunks dialect level)) := by
  have succeed : AllSucceed (Block.customsOf (NodeSpec.buildList dialect spec.nodes) level) := by
    rw [NodeSpec.customsOf_buildList]
    exact fun entry member => absurd member List.not_mem_nil
  exact Block.renderNodes_eq_terminated dialect.separator _ level succeed

/-! ### Separators -/

mutual

def NodeSpec.mapStatements (change : String → String) : NodeSpec → NodeSpec
  | .statement text => .statement (change text)
  | .verbatim text => .verbatim text
  | .scope header close nodes => .scope header close (NodeSpec.mapAllStatements change nodes)

def NodeSpec.mapAllStatements (change : String → String) : List NodeSpec → List NodeSpec
  | [] => []
  | node :: nodes => node.mapStatements change :: NodeSpec.mapAllStatements change nodes

end

/-- **A described block with other texts in its statements**, at all depths.  Verbatim texts,
headers and closing lines are left as they are. -/
def BlockSpec.mapStatements (change : String → String) (spec : BlockSpec) : BlockSpec :=
  { spec with nodes := NodeSpec.mapAllStatements change spec.nodes }

theorem NodeSpec.mapAllStatements_eq_nil_iff (change : String → String) (nodes : List NodeSpec) :
    NodeSpec.mapAllStatements change nodes = [] ↔ nodes = [] := by
  cases nodes <;> simp [NodeSpec.mapAllStatements]

mutual

-- The two dialects have the same style, so nothing but the texts of statements tells the two sides
-- apart, and there the separator has only moved to the other side of the bracket.
/-- **A separator may be moved into the statements.** -/
theorem NodeSpec.chunks_withSeparator (separator : String) :
    ∀ (node : NodeSpec) (level : Nat),
      node.chunks (dialect.withSeparator separator) level =
        (node.mapStatements (· ++ separator)).chunks (dialect.withSeparator "") level
  | .statement text, level => by
      rw [NodeSpec.mapStatements, NodeSpec.chunks_statement, NodeSpec.chunks_statement]
      simp [Dialect.withSeparator, String.append_assoc]
  | .verbatim _, _ => rfl
  | .scope header close nodes, level => by
      have inner := NodeSpec.chunksOf_withSeparator separator nodes (level + 1)
      rw [NodeSpec.mapStatements, NodeSpec.chunks_scope, NodeSpec.chunks_scope, inner]
      simp only [NodeSpec.mapAllStatements_eq_nil_iff]
      rfl

theorem NodeSpec.chunksOf_withSeparator (separator : String) :
    ∀ (nodes : List NodeSpec) (level : Nat),
      NodeSpec.chunksOf (dialect.withSeparator separator) nodes level =
        NodeSpec.chunksOf (dialect.withSeparator "")
          (NodeSpec.mapAllStatements (· ++ separator) nodes) level
  | [], _ => rfl
  | node :: nodes, level => by
      have first := NodeSpec.chunks_withSeparator separator node level
      have others := NodeSpec.chunksOf_withSeparator separator nodes level
      rw [NodeSpec.mapAllStatements, NodeSpec.chunksOf_cons, NodeSpec.chunksOf_cons, first, others]

end

/-- **The separator stands behind every statement and nowhere else**: a described block renders in a
dialect with a separator as it does in the dialect without one, if every statement text at every
depth has the separator at its end instead. -/
theorem BlockSpec.render_withSeparator (dialect : Dialect) (separator : String) (spec : BlockSpec)
    (level : Nat) :
    ∃ text, (spec.build (dialect.withSeparator separator)).render level = .ok text ∧
      ((spec.mapStatements (· ++ separator)).build (dialect.withSeparator "")).render level =
        .ok text := by
  have same : spec.chunks (dialect.withSeparator separator) level =
      (spec.mapStatements (· ++ separator)).chunks (dialect.withSeparator "") level :=
    NodeSpec.chunksOf_withSeparator separator spec.nodes level
  refine ⟨terminated (spec.chunks (dialect.withSeparator separator) level), ?_, ?_⟩
  · exact spec.render_eq_chunks _ level
  · rw [BlockSpec.render_eq_chunks, same]

/-- A separator with a line end in it, in a scope without a header, and around empty texts. -/
example :
    let spec : BlockSpec := { nodes := [.scope "" (some "") [.statement "", .verbatim "v"]] }
    (spec.build ⟨"", ";\n", .tab⟩).render 0 = .ok "\t;\n\nv\n\n" ∧
      ((spec.mapStatements (· ++ ";\n")).build ⟨"", "", .tab⟩).render 0 =
        .ok "\t;\n\nv\n\n" := ⟨rfl, rfl⟩

end CodeBlocks
