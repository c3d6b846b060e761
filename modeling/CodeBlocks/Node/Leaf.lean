/-
**Leaves of custom code.**

Ready-made renderable things: a fixed text, the level written out, a chain of calls, and a node that
always fails.

Main definitions:

* `CodeBlocks.Renderable.fixed`, `CodeBlocks.Renderable.levelMark`;
* `CodeBlocks.Renderable.callChain` — `receiver.first.second`, indented by four spaces;
* `CodeBlocks.Renderable.failing` — a node without text.
-/
import CodeBlocks.Node

set_option relaxedAutoImplicit false
set_option autoImplicit false

namespace CodeBlocks.Renderable

def fixed (text : String) : Renderable := .leaf fun _ => .ok text

def levelMark : Renderable := .leaf fun level => .ok s!"level {level}"

/-- **A chain of calls** on a receiver.  A chain without calls has no text. -/
def callChain (receiver : String) (calls : List String) : Renderable :=
  .leaf fun level =>
    match calls with
    | [] => .error ⟨s!"call chain on '{receiver}'", "no calls"⟩
    | _ => .ok (Indent.fourSpaces.lead level ++ receiver ++ "." ++ ".".intercalate calls)

/-- A node that has no text at any level. -/
def failing (node reason : String) : Renderable := .leaf fun _ => .error ⟨node, reason⟩

end CodeBlocks.Renderable
