/-
**Rendering.**

A block renders to the texts of its nodes, each followed by the separator if it is a statement, and
by one line end.  A scope passes the next level to its body.  The first node without text fails the
whole block, with the failure of that node and no text at all.

No level is too large and no text in front of a line is too long.  On a machine that goes only so
far rendering is `CodeBlocks.Block.renderOn`, and it is the same as here for a block that fits
(`CodeBlocks.Block.FitsOn`, `CodeBlocks.Block.renderOn_of_fits`).

Main definitions:

* `CodeBlocks.Block.render` — the text of a block at a level;
* `CodeBlocks.Node.code`, `CodeBlocks.Scope.code`, `CodeBlocks.Renderable.code` — the text of a
  node, of a scope, and of a custom node; none of them ends its last line;
* `CodeBlocks.Scope.assemble` — a scope around the text of its body.

Main results:

* `CodeBlocks.Block.renderNodes_append` — nodes in front render before nodes behind.
-/
import CodeBlocks.Node

set_option relaxedAutoImplicit false
set_option autoImplicit false

namespace CodeBlocks

def Statement.code (line : Statement) (level : Nat) : String :=
  line.indent.lead level ++ line.text

/-- A text without its last line end, if it ends with one. -/
def dropLineEnd (text : String) : String :=
  if text.toList.getLast? = some '\n' then String.ofList text.toList.dropLast else text

/-- **The lines of a scope** around the text of its body: the header unless it is empty, the body,
and the closing line.  Without a closing line the body's last line is left open. -/
def Scope.assemble (header : String) (close : Option String) (lead body : String) : String :=
  let opened := (if header = "" then "" else lead ++ header ++ "\n") ++ body
  match close with
  | some last => opened ++ lead ++ last
  | none => dropLineEnd opened

/-- What follows the text of a node in a block with the given separator. -/
def Node.ending (separator : String) (node : Node) : String :=
  (if node.takesSeparator then separator else "") ++ "\n"

mutual

/-- **The text of a block at a level.** -/
def Block.render : Block → Nat → Except RenderError String
  | ⟨nodes, separator, _⟩, level => Block.renderNodes separator nodes level

def Block.renderNodes (separator : String) : List Node → Nat → Except RenderError String
  | [], _ => .ok ""
  | node :: nodes, level => do
    let text ← node.code level
    let more ← Block.renderNodes separator nodes level
    return text ++ node.ending separator ++ more

def Node.code : Node → Nat → Except RenderError String
  | .statement line, level => .ok (line.code level)
  | .scope nested, level => nested.code level
  | .verbatim text, _ => .ok text
  | .custom thing, level => thing.code level

def Scope.code : Scope → Nat → Except RenderError String
  | ⟨header, body, close, indent⟩, level => do
    let inner ← body.render (level + 1)
    return Scope.assemble header close (indent.lead level) inner

def Renderable.code : Renderable → Nat → Except RenderError String
  | .leaf code, level => code level
  | .block inner, level => inner.render level
  | .node inner, level => inner.code level
  | .boxed inner, level => inner.code level

end

namespace Block

/-- **Nodes render one after the other**: first those in front, and then those behind. -/
theorem renderNodes_append (separator : String) (nodes more : List Node) (level : Nat) :
    renderNodes separator (nodes ++ more) level = (do
      let text ← renderNodes separator nodes level
      let rest ← renderNodes separator more level
      return text ++ rest) := by
  induction nodes with
  | nil =>
      rw [List.nil_append, renderNodes]
      cases renderNodes separator more level with
      | error error => rfl
      | ok rest => simp [bind, Except.bind, pure, Except.pure]
  | cons node nodes ih =>
      rw [List.cons_append, renderNodes, renderNodes, ih]
      cases node.code level with
      | error error => rfl
      | ok text =>
          cases renderNodes separator nodes level with
          | error error => rfl
          | ok here =>
              cases renderNodes separator more level with
              | error error => rfl
              | ok rest => simp [bind, Except.bind, pure, Except.pure, String.append_assoc]

end Block

end CodeBlocks
