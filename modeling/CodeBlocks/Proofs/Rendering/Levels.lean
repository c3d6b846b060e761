/-
**Levels.**

A described block without verbatim texts stands at its level with every line: one level further in,
each of its lines has one unit more in front, and nothing else changes.  That can be seen from the
text alone, without a look at the description, if no statement, header, closing line or separator
breaks a line in two.  A scope with nothing to it at all is the other exception, because it leaves
an empty line at every level.

Main definitions:

* `CodeBlocks.endedLines` — the lines of a text, as far as they are ended;
* `CodeBlocks.NodeSpec.IsIndented` — a node whose lines are whole and stand at its level.

Main results:

* `CodeBlocks.endedLines_terminated` — the lines of a text of chunks are the chunks, if none of them
  breaks;
* `CodeBlocks.NodeSpec.chunksOf_deeper` — **further in, every chunk is moved by the same lead**;
* `CodeBlocks.NodeSpec.lineEnd_not_mem_chunksOf` — chunks of indented nodes do not break;
* `CodeBlocks.BlockSpec.render_deeper` — **another level only moves the lines**.
-/
import CodeBlocks.Proofs.Rendering.Descriptions

set_option relaxedAutoImplicit false
set_option autoImplicit false

namespace CodeBlocks

variable {dialect : Dialect}

/-! ### The lines of a text -/

/-- **The lines of a text that are ended**, without their line ends.  What stands behind the last
line end is no line. -/
def endedLines (text : String) : List String :=
  (text.toList.splitOn '\n').dropLast.map String.ofList

theorem splitOn_terminated {chunks : List String} (whole : ∀ chunk ∈ chunks, '\n' ∉ chunk.toList) :
    (terminated chunks).toList.splitOn '\n' = chunks.map String.toList ++ [[]] := by
  induction chunks with
  | nil => rfl
  | cons chunk chunks ih =>
      have first : '\n' ∉ chunk.toList := whole chunk (List.mem_cons_self ..)
      have others := ih fun other member => whole other (List.mem_cons_of_mem _ member)
      have split : (terminated (chunk :: chunks)).toList =
          chunk.toList ++ '\n' :: (terminated chunks).toList := by
        simp [terminated_cons, String.toList_append]
      rw [split, List.splitOn_append_cons_self_of_not_mem first, others]
      rfl

/-- **The lines of a text of chunks are the chunks**, if none of them has a line end in it. -/
theorem endedLines_terminated {chunks : List String}
    (whole : ∀ chunk ∈ chunks, '\n' ∉ chunk.toList) : endedLines (terminated chunks) = chunks := by
  rw [endedLines, splitOn_terminated whole, List.dropLast_concat, List.map_map]
  exact List.map_id'' (fun _ => String.ofList_toList) chunks

/-! ### Indented nodes -/

/-- **A node whose lines are whole and stand at its level.**  This is said of the node itself, not
of the nodes inside it. -/
def NodeSpec.IsIndented : NodeSpec → Prop
  | .statement text => '\n' ∉ text.toList
  | .verbatim _ => False
  | .scope header close nodes =>
    '\n' ∉ header.toList ∧ (∀ last ∈ close, '\n' ∉ last.toList) ∧
      ¬(header = "" ∧ nodes = [] ∧ close = none)

theorem NodeSpec.chunks_scope_of_isIndented {header : String} {close : Option String}
    {nodes : List NodeSpec} (indented : (NodeSpec.scope header close nodes).IsIndented)
    (level : Nat) :
    (NodeSpec.scope header close nodes).chunks dialect level =
      Scope.frame header close (dialect.indent.lead level)
        (NodeSpec.chunksOf dialect nodes (level + 1)) := by
  rw [NodeSpec.chunks_scope, if_neg indented.2.2]

/-! ### Further in -/

theorem Scope.frame_moved (header : String) (close : Option String) (lead more : String)
    (inner : List String) :
    Scope.frame header close (more ++ lead) (inner.map (more ++ ·)) =
      (Scope.frame header close lead inner).map (more ++ ·) := by
  rw [Scope.frame, Scope.frame, List.map_append, List.map_append]
  cases close <;> split <;> simp [String.append_assoc]

mutual

-- Moving the level of a scope moves the level of its body along with it.
/-- **Further in, every chunk of a node is moved by the same lead.** -/
theorem NodeSpec.chunks_deeper (more : Nat) :
    ∀ (node : NodeSpec), (∀ inner ∈ node.withInner, inner.IsIndented) → ∀ level : Nat,
      node.chunks dialect (level + more) =
        (node.chunks dialect level).map (dialect.indent.lead more ++ ·)
  | .statement text, _, level => by
      have lead := dialect.indent.lead_add more level
      rw [NodeSpec.chunks_statement, NodeSpec.chunks_statement, Nat.add_comm, lead]
      simp [String.append_assoc]
  | .verbatim _, indented, _ => absurd (indented _ (List.mem_singleton_self _)) id
  | .scope header close nodes, indented, level => by
      rw [NodeSpec.withInner, List.forall_mem_cons] at indented
      obtain ⟨own, within⟩ := indented
      have lead := dialect.indent.lead_add more level
      have inner := NodeSpec.chunksOf_deeper more nodes within (level + 1)
      rw [NodeSpec.chunks_scope_of_isIndented own, NodeSpec.chunks_scope_of_isIndented own,
        Nat.add_right_comm, inner, Nat.add_comm level more, lead]
      exact Scope.frame_moved header close _ _ _

/-- **Further in, every chunk is moved by the same lead.** -/
theorem NodeSpec.chunksOf_deeper (more : Nat) :
    ∀ (nodes : List NodeSpec), (∀ inner ∈ NodeSpec.allWithInner nodes, inner.IsIndented) →
      ∀ level : Nat, NodeSpec.chunksOf dialect nodes (level + more) =
        (NodeSpec.chunksOf dialect nodes level).map (dialect.indent.lead more ++ ·)
  | [], _, _ => rfl
  | node :: nodes, indented, level => by
      rw [NodeSpec.allWithInner, List.forall_mem_append] at indented
      have first := NodeSpec.chunks_deeper more node indented.1 level
      have others := NodeSpec.chunksOf_deeper more nodes indented.2 level
      rw [NodeSpec.chunksOf_cons, NodeSpec.chunksOf_cons, first, others, List.map_append]

end

/-! ### Whole lines -/

theorem Indent.lineEnd_not_mem_lead (style : Indent) (level : Nat) :
    '\n' ∉ (style.lead level).toList := by
  rw [Indent.lead, String.toList_ofList, List.mem_replicate]
  cases style <;> simp [Indent.glyph]

theorem Scope.lineEnd_not_mem_frame {header : String} {close : Option String} {lead : String}
    {inner : List String} (clear : '\n' ∉ lead.toList) (opening : '\n' ∉ header.toList)
    (closing : ∀ last ∈ close, '\n' ∉ last.toList)
    (within : ∀ chunk ∈ inner, '\n' ∉ chunk.toList) :
    ∀ chunk ∈ Scope.frame header close lead inner, '\n' ∉ chunk.toList := by
  intro chunk member
  rw [Scope.frame, List.mem_append, List.mem_append] at member
  rcases member with (first | body) | last
  · split at first
    · cases first
    · obtain rfl := List.mem_singleton.1 first
      simp [clear, opening]
  · exact within chunk body
  · obtain ⟨text, closes, rfl⟩ := Option.map_eq_some_iff.1 (Option.mem_toList.1 last)
    simp [clear, closing text closes]

mutual

theorem NodeSpec.lineEnd_not_mem_chunks (flat : '\n' ∉ dialect.separator.toList) :
    ∀ (node : NodeSpec), (∀ inner ∈ node.withInner, inner.IsIndented) → ∀ level : Nat,
      ∀ chunk ∈ node.chunks dialect level, '\n' ∉ chunk.toList
  | .statement text, indented, level => by
      have own : '\n' ∉ text.toList := indented _ (List.mem_singleton_self _)
      have clear := dialect.indent.lineEnd_not_mem_lead level
      simp [clear, own, flat]
  | .verbatim _, indented, _ => absurd (indented _ (List.mem_singleton_self _)) id
  | .scope header close nodes, indented, level => by
      rw [NodeSpec.withInner, List.forall_mem_cons] at indented
      obtain ⟨own, within⟩ := indented
      have inner := NodeSpec.lineEnd_not_mem_chunksOf flat nodes within (level + 1)
      rw [NodeSpec.chunks_scope_of_isIndented own]
      exact Scope.lineEnd_not_mem_frame (dialect.indent.lineEnd_not_mem_lead level) own.1 own.2.1
        inner

/-- **Chunks of indented nodes do not break**, if the separator does not. -/
theorem NodeSpec.lineEnd_not_mem_chunksOf (flat : '\n' ∉ dialect.separator.toList) :
    ∀ (nodes : List NodeSpec), (∀ inner ∈ NodeSpec.allWithInner nodes, inner.IsIndented) →
      ∀ level : Nat, ∀ chunk ∈ NodeSpec.chunksOf dialect nodes level, '\n' ∉ chunk.toList
  | [], _, _ => by simp
  | node :: nodes, indented, level => by
      rw [NodeSpec.allWithInner, List.forall_mem_append] at indented
      rw [NodeSpec.chunksOf_cons, List.forall_mem_append]
      exact ⟨NodeSpec.lineEnd_not_mem_chunks flat node indented.1 level,
        NodeSpec.lineEnd_not_mem_chunksOf flat nodes indented.2 level⟩

end

/-- **Another level only moves the lines.**  The text of a described block consists of lines that
are ended, and with the lead of some more levels in front of each it is the text that many levels
further in. -/
theorem BlockSpec.render_deeper (dialect : Dialect) (spec : BlockSpec)
    (indented : ∀ node ∈ spec.allNodes, node.IsIndented)
    (flat : '\n' ∉ dialect.separator.toList) (level more : Nat) :
    ∃ text, (spec.build dialect).render level = .ok text ∧
      terminated (endedLines text) = text ∧
      (spec.build dialect).render (level + more) =
        .ok (terminated ((endedLines text).map (dialect.indent.lead more ++ ·))) := by
  have lines : endedLines (terminated (spec.chunks dialect level)) = spec.chunks dialect level :=
    endedLines_terminated (NodeSpec.lineEnd_not_mem_chunksOf flat spec.nodes indented level)
  have moved : spec.chunks dialect (level + more) =
      (spec.chunks dialect level).map (dialect.indent.lead more ++ ·) :=
    NodeSpec.chunksOf_deeper more spec.nodes indented level
  refine ⟨terminated (spec.chunks dialect level), spec.render_eq_chunks dialect level, ?_, ?_⟩
  · rw [lines]
  · rw [lines, ← moved]
    exact spec.render_eq_chunks dialect (level + more)

/-- Scopes that lack a header, a closing line or nodes, and texts that are empty. -/
def BlockSpec.sparse : BlockSpec where
  nodes :=
    [.scope "if" none [], .scope "" none [.statement "", .scope "" (some "") []],
      .scope "loop" (some "end") [.scope "" none [.scope "do:" none [.statement "x"]]]]

theorem BlockSpec.render_sparse :
    (∀ node ∈ BlockSpec.sparse.allNodes, node.IsIndented) ∧
      '\n' ∉ Dialect.go.separator.toList ∧
      endedLines "if\n\t\n\t\nloop\n\t\tdo:\n\t\t\tx\nend\n" =
        ["if", "\t", "\t", "loop", "\t\tdo:", "\t\t\tx", "end"] ∧
      (BlockSpec.sparse.build Dialect.go).render (0 + 2) =
        .ok "\t\tif\n\t\t\t\n\t\t\t\n\t\tloop\n\t\t\t\tdo:\n\t\t\t\t\tx\n\t\tend\n" := by
  have indented : ∀ node ∈ BlockSpec.sparse.allNodes, node.IsIndented := by
    simp [BlockSpec.sparse, BlockSpec.allNodes, NodeSpec.allWithInner, NodeSpec.withInner,
      NodeSpec.IsIndented]
  have flat : '\n' ∉ Dialect.go.separator.toList := by decide
  have lines : endedLines "if\n\t\n\t\nloop\n\t\tdo:\n\t\t\tx\nend\n" =
      ["if", "\t", "\t", "loop", "\t\tdo:", "\t\t\tx", "end"] := by decide
  obtain ⟨text, rendered, _, moved⟩ := BlockSpec.sparse.render_deeper Dialect.go indented flat 0 2
  have here : (BlockSpec.sparse.build Dialect.go).render 0 =
      .ok "if\n\t\n\t\nloop\n\t\tdo:\n\t\t\tx\nend\n" := rfl
  obtain rfl := Except.ok.inj (rendered.symm.trans here)
  rw [lines] at moved
  exact ⟨indented, flat, lines, moved.trans (by rfl)⟩

end CodeBlocks
