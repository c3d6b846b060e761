/-
**Rendering within the bounds of a machine.**

A machine counts levels and holds texts only so far.  Where it goes far enough for a tree, rendering
on it is rendering without bounds, and so everything that is known of that holds there as well.  In
particular its failures are those of the leaves.  Where the machine does not go far enough, a block
whose leaves all have a text may have none, or its leaves may be asked at another level.

Main results:

* `CodeBlocks.Block.renderOn_of_fits` — **where a block fits, the bounds do not show**;
* `CodeBlocks.Block.renderOn_iff_leaves` — where it fits, it renders exactly if each of its leaves
  has a text, and else it fails with what the first leaf without one says;
* `CodeBlocks.Block.renderOn_beyond` — beyond the bounds the leaves do not decide.
-/
import CodeBlocks.Node.Bounded
import CodeBlocks.Proofs.Rendering.Failures

set_option relaxedAutoImplicit false
set_option autoImplicit false

namespace CodeBlocks

variable {machine : Machine}

/-! ### Demands of parts -/

section Parts

variable {level : Nat} {node : Node} {nodes : List Node} {header separator : String} {body : Block}
  {close : Option String} {style : Indent}

theorem metBy_demandsOf_cons :
    (∀ demand ∈ Block.demandsOf (node :: nodes), demand.MetBy machine level) ↔
      (∀ demand ∈ node.demands, demand.MetBy machine level) ∧
        ∀ demand ∈ Block.demandsOf nodes, demand.MetBy machine level := by
  rw [Block.demandsOf, List.forall_mem_append]

/-- What a scope asks for, and what its body does one level further in. -/
theorem metBy_demands_scope :
    (∀ demand ∈ (Node.scope ⟨header, body, close, style⟩).demands, demand.MetBy machine level) ↔
      (machine.counts level ∧ machine.holds (style.width * level)) ∧
        (machine.counts (level + 1) ∧ machine.holds 0) ∧ body.FitsOn machine (level + 1) := by
  rw [Node.demands, Scope.demands, List.forall_mem_cons, List.forall_mem_cons, List.forall_mem_map]
  simp only [Demand.metBy_deeper]
  simp only [Demand.MetBy, Nat.add_zero, Nat.zero_mul]
  rfl

end Parts

/-! ### Within the bounds -/

mutual

-- The induction follows the tree.  Each demand is used at the place that makes it: a line takes the
-- text in front of it, and a scope the next level, at which its body fits.
theorem Block.renderNodesOn_of_fits (separator : String) :
    ∀ (nodes : List Node) (level : Nat),
      (∀ demand ∈ Block.demandsOf nodes, demand.MetBy machine level) →
      Block.renderNodesOn machine separator nodes level =
        (Block.renderNodes separator nodes level).mapError .failed
  | [], level, _ => rfl
  | node :: nodes, level, fits => by
      obtain ⟨here, there⟩ := metBy_demandsOf_cons.1 fits
      have first := Node.codeOn_of_fits node level here
      have others := Block.renderNodesOn_of_fits separator nodes level there
      rw [Block.renderNodesOn, Block.renderNodes, first, others, mapError_bind]
      refine congrArg _ (funext fun text => ?_)
      rw [mapError_bind]
      rfl

theorem Node.codeOn_of_fits :
    ∀ (node : Node) (level : Nat), (∀ demand ∈ node.demands, demand.MetBy machine level) →
      node.codeOn machine level = (node.code level).mapError .failed
  | .statement line, level, fits => by
      have room : machine.holds (line.indent.width * level) := (List.forall_mem_singleton.1 fits).2
      rw [Node.codeOn, Machine.lead_of_holds room]
      rfl
  | .scope ⟨header, ⟨nodes, separator, style⟩, close, indent⟩, level, fits => by
      obtain ⟨⟨_, room⟩, ⟨counts, _⟩, inside⟩ := metBy_demands_scope.1 fits
      have body : Block.renderOn machine ⟨nodes, separator, style⟩ (level + 1) =
          (Block.render ⟨nodes, separator, style⟩ (level + 1)).mapError .failed :=
        Block.renderNodesOn_of_fits separator nodes (level + 1) inside
      rw [Node.codeOn, Scope.codeOn, Machine.lead_of_holds room, Machine.deeper_of_counts counts,
        Node.code, Scope.code, mapError_bind, ← body]
      rfl
  | .verbatim text, level, _ => rfl
  | .custom thing, level, fits => Renderable.codeOn_of_fits thing level fits

theorem Renderable.codeOn_of_fits :
    ∀ (thing : Renderable) (level : Nat), (∀ demand ∈ thing.demands, demand.MetBy machine level) →
      thing.codeOn machine level = (thing.code level).mapError .failed
  | .leaf _, _, _ => rfl
  | .block ⟨nodes, separator, _⟩, level, fits =>
      Block.renderNodesOn_of_fits separator nodes level fits
  | .node inner, level, fits => Node.codeOn_of_fits inner level fits
  | .boxed inner, level, fits => Renderable.codeOn_of_fits inner level fits

end

/-- **Where a block fits, the bounds do not show.** -/
theorem Block.renderOn_of_fits {block : Block} {level : Nat} (fits : block.FitsOn machine level) :
    block.renderOn machine level = (block.render level).mapError .failed := by
  obtain ⟨nodes, separator, style⟩ := block
  exact Block.renderNodesOn_of_fits separator nodes level fits

/-- **A block that fits renders exactly if each of its leaves has a text**, and else it fails with
what the first leaf without one says, as that leaf says it. -/
theorem Block.renderOn_iff_leaves (machine : Machine) (block : Block) (level : Nat)
    (fits : block.FitsOn machine level) :
    ((∃ text, block.renderOn machine level = .ok text) ↔
        ∀ leaf ∈ block.leaves, leaf.Succeeds level) ∧
      ∀ error, block.renderOn machine level = .error (.failed error) ↔
        ∃ before leaf after, block.leaves = before ++ leaf :: after ∧
          (∀ earlier ∈ before, earlier.Succeeds level) ∧ leaf.codeAt level = .error error := by
  have injective : Function.Injective RenderFault.failed :=
    fun _ _ same => RenderFault.failed.inj same
  obtain ⟨succeeds, fails⟩ := block.render_iff_leaves level
  rw [Block.renderOn_of_fits fits]
  simp only [mapError_eq_ok_iff, mapError_eq_error_iff injective]
  exact ⟨succeeds, fails⟩

/-- A tree whose first leaf without a text is inside of two scopes and a box.  Another one stands
further out, but it comes later. -/
def hiddenFailure : Block :=
  let innermost : Block :=
    { nodes := [.custom (.leaf fun level => .error ⟨"leaf", s!"level {level}"⟩)] }
  let inner : Block := { nodes := [.scope ⟨"", innermost, none, .tab⟩] }
  let body : Block := { nodes := [.custom (.boxed (.block inner))] }
  { nodes := [.custom .levelMark, .scope ⟨"do", body, none, .tab⟩,
      .custom (.failing "late" "always")] }

theorem Block.renderOn_hiddenFailure :
    hiddenFailure.FitsOn (.sixtyFour true) 1 ∧
      hiddenFailure.renderOn (.sixtyFour true) 1 = .error (.failed ⟨"leaf", "level 3"⟩) := by
  have fits : hiddenFailure.FitsOn (.sixtyFour true) 1 := by decide
  obtain ⟨_, fails⟩ := Block.renderOn_iff_leaves (.sixtyFour true) hiddenFailure 1 fits
  refine ⟨fits, (fails _).2 ⟨[⟨fun level => .ok s!"level {level}", 0⟩], _, _, rfl, ?_, rfl⟩⟩
  rintro leaf member
  obtain rfl := List.mem_singleton.1 member
  exact ⟨_, rfl⟩

/-! ### Beyond the bounds -/

/-- **Beyond the bounds the leaves do not decide.**  A line whose leading text is too large stops
the program, and there is no leaf that could have failed.  A scope at the last level stops it as
well, or else its leaf is asked at level zero. -/
theorem Block.renderOn_beyond :
    let line : Block := { nodes := [.statement ⟨"x", .fourSpaces⟩] }
    let inner : Block := { nodes := [.custom .levelMark] }
    let scope : Block := { nodes := [.scope ⟨"", inner, none, .spaces 0⟩] }
    (line.leaves = [] ∧
        line.renderOn (.sixtyFour true) (Nat.pow 2 62) = .error .overflow ∧
        line.renderOn (.sixtyFour false) (Nat.pow 2 62) = .error .overflow) ∧
      (∀ leaf ∈ scope.leaves, leaf.codeAt (Nat.pow 2 64 - 1) = .ok "level 18446744073709551616") ∧
      scope.renderOn (.sixtyFour true) (Nat.pow 2 64 - 1) = .error .overflow ∧
      scope.renderOn (.sixtyFour false) (Nat.pow 2 64 - 1) = .ok "level 0\n" := by
  intro line inner scope
  refine ⟨⟨rfl, rfl, rfl⟩, ?_, rfl, ?_⟩
  · intro leaf member
    obtain rfl := List.mem_singleton.1 member
    decide +kernel
  · decide +kernel

end CodeBlocks
