/-
**The node model of generated code.**

A block is a sequence of nodes.  A node is a statement, which is one line that receives the
block's separator, a scope, which wraps a nested block into a header and a closing line, a piece of
verbatim text, or any other thing that can render itself at a level.

Main definitions:

* `CodeBlocks.Statement`, `CodeBlocks.Scope`, `CodeBlocks.Node`, `CodeBlocks.Block` — the tree;
* `CodeBlocks.Renderable` — what can stand for a custom node: a leaf that knows its own text, a
  block, a node, or another renderable thing in a box;
* `CodeBlocks.NodeKind` — the four kinds of nodes;
* `CodeBlocks.RenderError` — why a leaf has no text.
-/
import CodeBlocks.Indent

set_option relaxedAutoImplicit false
set_option autoImplicit false

namespace CodeBlocks

/-! ### Failures -/

/-- **A node without text**: which node failed, and why. -/
structure RenderError where
  node : String
  reason : String
deriving DecidableEq, Repr

def RenderError.message (e : RenderError) : String :=
  s!"failed to render {e.node}: {e.reason}"

/-! ### The tree -/

/-- **One line of code** with its own indentation style.  The enclosing block adds the separator. -/
structure Statement where
  text : String
  indent : Indent := .fourSpaces
deriving DecidableEq, Repr

mutual

/-- **A sequence of nodes.**  The separator follows every statement that stands directly in the
block.  The style is for statements and scopes that are still to be added; it does not touch the
nodes that are there. -/
structure Block where
  nodes : List Node := []
  separator : String := ""
  indent : Indent := .fourSpaces

/-- **A nested block** between a header line and an optional closing line. -/
structure Scope where
  header : String
  body : Block
  close : Option String := none
  indent : Indent := .fourSpaces

/-- **A node of a block.** -/
inductive Node where
  | statement (line : Statement)
  | scope (nested : Scope)
  | verbatim (text : String)
  | custom (thing : Renderable)

/-- **A thing that renders itself** at a level.  A leaf is given by its text at each level. -/
inductive Renderable where
  | leaf (code : Nat → Except RenderError String)
  | block (inner : Block)
  | node (inner : Node)
  | boxed (inner : Renderable)

end

instance : Inhabited Block := ⟨{}⟩

/-! ### Kinds -/

inductive NodeKind where
  | statement
  | scope
  | verbatim
  | custom
deriving DecidableEq, Repr

def NodeKind.name : NodeKind → String
  | statement => "statement"
  | scope => "scope"
  | verbatim => "verbatim"
  | custom => "custom"

namespace Node

def kind : Node → NodeKind
  | statement _ => .statement
  | scope _ => .scope
  | verbatim _ => .verbatim
  | custom _ => .custom

/-- Only a statement is followed by the separator; every other node ends itself. -/
def takesSeparator : Node → Bool
  | statement _ => true
  | _ => false

end Node

namespace Block

def size (block : Block) : Nat := block.nodes.length

def isEmpty (block : Block) : Bool := block.nodes.isEmpty

end Block

end CodeBlocks
