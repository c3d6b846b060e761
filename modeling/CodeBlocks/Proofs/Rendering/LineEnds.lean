/-
**Counting line ends.**

The renderer and the counter of nodes walk through a description independently of each other.  A
flat block of texts that do not break has as many line ends as nodes.  In general every node ends
some lines of its own: one, and a second one if it is a scope with a closing line, but for a header
that is left out, and in addition what its texts and the separator break.  Summed up over the nodes
at all depths these are the line ends of the rendered text, in which neither the level nor the
style plays a part.

Main definitions:

* `CodeBlocks.lineEnds` — the number of line ends in a text;
* `CodeBlocks.NodeSpec.ownLineEnds` — the lines that a node ends, apart from the nodes inside it;
* `CodeBlocks.NodeSpec.isStatement`, `CodeBlocks.NodeSpec.isClosed`,
  `CodeBlocks.NodeSpec.isHeadless`, `CodeBlocks.NodeSpec.textLineEnds` — what these lines are made
  up of.

Main results:

* `CodeBlocks.lineEnds_terminated` — the line ends of a text of chunks;
* `CodeBlocks.NodeSpec.lineEnds_chunksOf` — **the line ends of described nodes are those of the
  nodes at all depths**;
* `CodeBlocks.NodeSpec.sum_ownLineEnds` — what they sum up to over any nodes;
* `CodeBlocks.BlockSpec.lineEnds_render` — **the number of line ends of a described block**.
-/
import CodeBlocks.Proofs.Rendering.Levels
import Mathlib.Algebra.Ring.Nat

set_option relaxedAutoImplicit false
set_option autoImplicit false

namespace CodeBlocks

variable {dialect : Dialect}

/-! ### Line ends of texts -/

/-- **The number of line ends in a text.** -/
def lineEnds (text : String) : Nat := text.toList.count '\n'

@[simp] theorem lineEnds_empty : lineEnds "" = 0 := rfl

@[simp] theorem lineEnds_append (text more : String) :
    lineEnds (text ++ more) = lineEnds text + lineEnds more := by
  rw [lineEnds, String.toList_append, List.count_append]
  rfl

@[simp] theorem lineEnds_lead (style : Indent) (level : Nat) : lineEnds (style.lead level) = 0 :=
  List.count_eq_zero_of_not_mem (style.lineEnd_not_mem_lead level)

/-- The line ends of a text of chunks: one for each chunk, and those inside the chunks. -/
theorem lineEnds_terminated (chunks : List String) :
    lineEnds (terminated chunks) = chunks.length + (chunks.map lineEnds).sum := by
  induction chunks with
  | nil => rfl
  | cons chunk chunks ih =>
      have one : lineEnds "\n" = 1 := rfl
      rw [terminated_cons, lineEnds_append, lineEnds_append, one, ih, List.length_cons,
        List.map_cons, List.sum_cons]
      omega

/-! ### What a node ends by itself -/

namespace NodeSpec

def isStatement : NodeSpec → Bool
  | .statement _ => true
  | _ => false

def isClosed : NodeSpec → Bool
  | .scope _ close _ => close.isSome
  | _ => false

/-- Whether a node is a scope without a header that has something else to show. -/
def isHeadless : NodeSpec → Bool
  | .scope header close nodes => header = "" && (close.isSome || !nodes.isEmpty)
  | _ => false

def textLineEnds : NodeSpec → Nat
  | .statement text => lineEnds text
  | .verbatim text => lineEnds text
  | .scope header close _ => lineEnds header + (close.map lineEnds).getD 0

/-- **The lines that a node ends**, apart from those of the nodes inside it, where the separator has
some line ends. -/
def ownLineEnds (ends : Nat) : NodeSpec → Nat
  | .statement text => 1 + lineEnds text + ends
  | .verbatim text => 1 + lineEnds text
  | .scope header close nodes =>
    if header = "" ∧ nodes = [] ∧ close = none then 1
    else (if header = "" then 0 else 1 + lineEnds header) +
      (close.map fun last => 1 + lineEnds last).getD 0

/-- What the lines that a node ends are made up of. -/
theorem ownLineEnds_eq (ends : Nat) (node : NodeSpec) :
    node.ownLineEnds ends + node.isHeadless.toNat =
      1 + node.isClosed.toNat + node.textLineEnds + node.isStatement.toNat * ends := by
  cases node with
  | statement text => simp [ownLineEnds, isHeadless, isClosed, textLineEnds, isStatement]
  | verbatim text => simp [ownLineEnds, isHeadless, isClosed, textLineEnds, isStatement]
  | scope header close nodes =>
      -- A scope without a header differs by whether anything else is there.
      by_cases named : header = ""
      · cases close <;> cases nodes <;>
          simp [ownLineEnds, isHeadless, isClosed, textLineEnds, isStatement, named] <;> omega
      · cases close <;>
          simp [ownLineEnds, isHeadless, isClosed, textLineEnds, isStatement, named]
        omega

/-- **What the lines that nodes end sum up to**, over any nodes. -/
theorem sum_ownLineEnds (ends : Nat) (nodes : List NodeSpec) :
    (nodes.map (ownLineEnds ends)).sum + nodes.countP isHeadless =
      nodes.length + nodes.countP isClosed + (nodes.map textLineEnds).sum +
        nodes.countP isStatement * ends := by
  induction nodes with
  | nil => simp
  | cons node nodes ih =>
      have own := node.ownLineEnds_eq ends
      have counts : ∀ kind : NodeSpec → Bool,
          (node :: nodes).countP kind = nodes.countP kind + (kind node).toNat := by
        intro kind
        cases holds : kind node <;> simp [holds]
      rw [counts, counts, counts, List.map_cons, List.map_cons, List.sum_cons, List.sum_cons,
        List.length_cons, Nat.add_mul]
      omega

/-! ### All depths -/

theorem lineEnds_frame (header : String) (close : Option String) (inner : List String)
    (style : Indent) (level : Nat) :
    lineEnds (terminated (Scope.frame header close (style.lead level) inner)) =
      (if header = "" then 0 else 1 + lineEnds header) + lineEnds (terminated inner) +
        (close.map fun last => 1 + lineEnds last).getD 0 := by
  rw [Scope.frame, terminated_append, terminated_append, lineEnds_append, lineEnds_append]
  congr 2
  · split <;> simp [lineEnds_terminated]
  · cases close <;> simp [lineEnds_terminated]

mutual

theorem lineEnds_chunks :
    ∀ (node : NodeSpec) (level : Nat),
      lineEnds (terminated (node.chunks dialect level)) =
        (node.withInner.map (ownLineEnds (lineEnds dialect.separator))).sum
  | .statement text, level => by
      simp [lineEnds_terminated, withInner, ownLineEnds, Nat.add_assoc]
  | .verbatim text, level => by simp [lineEnds_terminated, withInner, ownLineEnds]
  | .scope header close nodes, level => by
      have inner := lineEnds_chunksOf nodes (level + 1)
      rw [chunks_scope, withInner, List.map_cons, List.sum_cons, ownLineEnds, ← inner]
      split
      case isTrue nothing =>
        obtain ⟨_, rfl, _⟩ := nothing
        rfl
      case isFalse something =>
        rw [lineEnds_frame]
        omega

/-- **The line ends of described nodes are those of the nodes at all depths.** -/
theorem lineEnds_chunksOf :
    ∀ (nodes : List NodeSpec) (level : Nat),
      lineEnds (terminated (chunksOf dialect nodes level)) =
        ((allWithInner nodes).map (ownLineEnds (lineEnds dialect.separator))).sum
  | [], _ => rfl
  | node :: nodes, level => by
      have first := lineEnds_chunks node level
      have others := lineEnds_chunksOf nodes level
      rw [chunksOf_cons, terminated_append, lineEnds_append, first, others, allWithInner,
        List.map_append, List.sum_append]

end

mutual

theorem total_eq_length : ∀ node : NodeSpec, node.total = node.withInner.length
  | .statement _ => rfl
  | .verbatim _ => rfl
  | .scope _ _ nodes => by
      rw [total, withInner, List.length_cons, totals_eq_length nodes, Nat.add_comm]

theorem totals_eq_length : ∀ nodes : List NodeSpec, totals nodes = (allWithInner nodes).length
  | [] => rfl
  | node :: nodes => by
      rw [totals, allWithInner, List.length_append, total_eq_length node, totals_eq_length nodes]

end

end NodeSpec

/-- **The number of line ends of a described block**, which does not depend on the level or on the
style: the nodes at all depths and the scopes with a closing line, less the scopes without a header
that have something else to show, and what breaks inside the texts and inside the separators.  No
more is taken away than there are nodes. -/
theorem BlockSpec.lineEnds_render (dialect : Dialect) (spec : BlockSpec) (level : Nat) :
    spec.allNodes.countP NodeSpec.isHeadless ≤ spec.total ∧
      ∃ text, (spec.build dialect).render level = .ok text ∧
        lineEnds text =
          spec.total + spec.allNodes.countP NodeSpec.isClosed -
              spec.allNodes.countP NodeSpec.isHeadless +
            (spec.allNodes.map NodeSpec.textLineEnds).sum +
            spec.allNodes.countP NodeSpec.isStatement * lineEnds dialect.separator := by
  have total : spec.total = spec.allNodes.length := NodeSpec.totals_eq_length spec.nodes
  have headless : spec.allNodes.countP NodeSpec.isHeadless ≤ spec.total := by
    rw [total]
    exact List.countP_le_length
  refine ⟨headless, _, spec.render_eq_chunks dialect level, ?_⟩
  have own : lineEnds (terminated (spec.chunks dialect level)) =
      (spec.allNodes.map (NodeSpec.ownLineEnds (lineEnds dialect.separator))).sum :=
    NodeSpec.lineEnds_chunksOf spec.nodes level
  have sum := NodeSpec.sum_ownLineEnds (lineEnds dialect.separator) spec.allNodes
  omega

/-- A header that is left out, a scope with nothing to it, and a text and a separator that break. -/
example :
    let spec : BlockSpec :=
      { nodes := [.scope "" (some "end") [.statement "a\nb"], .scope "" none []] }
    ((spec.build ⟨"", ";\n", .tab⟩).render 0).map lineEnds = .ok (3 + 1 - 1 + 1 + 1) := rfl

end CodeBlocks
