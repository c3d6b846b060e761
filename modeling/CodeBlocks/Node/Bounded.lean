/-
**Rendering as far as a machine goes.**

The same as rendering (`CodeBlocks.Block.render`), but for the bounds: each line that is indented
asks the machine for the text in front of it, and each scope for the next level.  What is asked
first stops the rendering first.

Main definitions:

* `CodeBlocks.Block.renderOn` — the text of a block at a level, on a machine;
* `CodeBlocks.Demand`, `CodeBlocks.Block.demands` — what a tree asks of a machine;
* `CodeBlocks.Block.FitsOn` — **the machine goes far enough**, for a block at a level.
-/
import CodeBlocks.Machine
import CodeBlocks.Node.Render

set_option relaxedAutoImplicit false
set_option autoImplicit false

namespace CodeBlocks

/-! ### Rendering -/

mutual

/-- **The text of a block at a level**, on a machine. -/
def Block.renderOn (machine : Machine) : Block → Nat → Except RenderFault String
  | ⟨nodes, separator, _⟩, level => Block.renderNodesOn machine separator nodes level

def Block.renderNodesOn (machine : Machine) (separator : String) :
    List Node → Nat → Except RenderFault String
  | [], _ => .ok ""
  | node :: nodes, level => do
    let text ← node.codeOn machine level
    let more ← Block.renderNodesOn machine separator nodes level
    return text ++ node.ending separator ++ more

def Node.codeOn (machine : Machine) : Node → Nat → Except RenderFault String
  | .statement line, level => do
    let lead ← machine.lead line.indent level
    return lead ++ line.text
  | .scope nested, level => nested.codeOn machine level
  | .verbatim text, _ => .ok text
  | .custom thing, level => thing.codeOn machine level

-- The text in front of the header is there before the body is looked at, header or not.
def Scope.codeOn (machine : Machine) : Scope → Nat → Except RenderFault String
  | ⟨header, body, close, indent⟩, level => do
    let lead ← machine.lead indent level
    let next ← machine.deeper level
    let inner ← body.renderOn machine next
    return Scope.assemble header close lead inner

def Renderable.codeOn (machine : Machine) : Renderable → Nat → Except RenderFault String
  | .leaf code, level => (code level).mapError .failed
  | .block inner, level => inner.renderOn machine level
  | .node inner, level => inner.codeOn machine level
  | .boxed inner, level => inner.codeOn machine level

end

/-! ### What a tree asks for -/

/-- **What one place in a tree asks for**: a level, by the number of scopes around the place, and a
text of so many characters for each level. -/
structure Demand where
  depth : Nat := 0
  width : Nat := 0
deriving DecidableEq, Repr

namespace Demand

def deeper (demand : Demand) : Demand := { demand with depth := demand.depth + 1 }

/-- **A demand is met** if the tree around it is rendered at a level. -/
def MetBy (machine : Machine) (level : Nat) (demand : Demand) : Prop :=
  machine.counts (level + demand.depth) ∧ machine.holds (demand.width * (level + demand.depth))

instance (machine : Machine) (level : Nat) (demand : Demand) :
    Decidable (demand.MetBy machine level) := inferInstanceAs (Decidable (_ ∧ _))

theorem metBy_deeper {machine : Machine} {level : Nat} {demand : Demand} :
    demand.deeper.MetBy machine level ↔ demand.MetBy machine (level + 1) := by
  have same : level + (demand.depth + 1) = level + 1 + demand.depth := by omega
  rw [MetBy, MetBy, deeper, same]

end Demand

mutual

/-- **What a block asks for.** -/
def Block.demands : Block → List Demand
  | ⟨nodes, _, _⟩ => Block.demandsOf nodes

def Block.demandsOf : List Node → List Demand
  | [] => []
  | node :: nodes => node.demands ++ Block.demandsOf nodes

def Node.demands : Node → List Demand
  | .statement line => [{ width := line.indent.width }]
  | .scope nested => nested.demands
  | .verbatim _ => []
  | .custom thing => thing.demands

/-- A scope asks for the text in front of its lines and for the level of its body. -/
def Scope.demands : Scope → List Demand
  | ⟨_, body, _, indent⟩ =>
    { width := indent.width } :: { depth := 1 } :: body.demands.map Demand.deeper

def Renderable.demands : Renderable → List Demand
  | .leaf _ => []
  | .block inner => inner.demands
  | .node inner => inner.demands
  | .boxed inner => inner.demands

end

/-- **The machine goes far enough** for a block at a level: no level and no text in front of a line
is too large. -/
def Block.FitsOn (machine : Machine) (level : Nat) (block : Block) : Prop :=
  ∀ demand ∈ block.demands, demand.MetBy machine level

instance (machine : Machine) (level : Nat) (block : Block) :
    Decidable (block.FitsOn machine level) :=
  inferInstanceAs (Decidable (∀ demand ∈ block.demands, demand.MetBy machine level))

theorem Block.fitsOn_unbounded (level : Nat) (block : Block) : block.FitsOn .unbounded level :=
  fun _ _ => ⟨rfl, rfl⟩

end CodeBlocks
