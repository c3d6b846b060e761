/-
**Blocks written out for inspection.**

The structure of a block on one line: every field by name, texts in quotes.  What stands behind a
custom node is not shown.

Main definitions:

* `CodeBlocks.Block.inspect` — a block, written out.
-/
import CodeBlocks.Node
import CodeBlocks.Text.Quoted

set_option relaxedAutoImplicit false
set_option autoImplicit false

namespace CodeBlocks

open Text (quoted)

/-! ### Notation of records -/

/-- A record: its name and its fields. -/
def inspectRecord (name : String) (fields : List (String × String)) : String :=
  let shown := fields.map fun field => field.1 ++ ": " ++ field.2
  name ++ " \x7b " ++ ", ".intercalate shown ++ " \x7d"

/-- A name applied to one argument. -/
def inspectApplied (name argument : String) : String := name ++ "(" ++ argument ++ ")"

def inspectOption : Option String → String
  | none => "None"
  | some text => inspectApplied "Some" (quoted text)

def Indent.inspect : Indent → String
  | spaces width => inspectApplied "Spaces" (toString width)
  | tab => "Tab"

def Statement.inspect (line : Statement) : String :=
  inspectRecord "Statement" [("text", quoted line.text), ("indent", line.indent.inspect)]

/-! ### The tree -/

mutual

/-- **A block, written out.** -/
def Block.inspect : Block → String
  | ⟨nodes, separator, indent⟩ =>
    inspectRecord "CodeBlock"
      [("nodes", "[" ++ ", ".intercalate (Block.inspectNodes nodes) ++ "]"),
       ("separator", quoted separator),
       ("indent", indent.inspect)]

def Block.inspectNodes : List Node → List String
  | [] => []
  | node :: nodes => node.inspect :: Block.inspectNodes nodes

def Node.inspect : Node → String
  | .statement line => inspectApplied "Statement" line.inspect
  | .scope nested => inspectApplied "Scope" nested.inspect
  | .verbatim text => inspectApplied "Verbatim" (inspectApplied "Verbatim" (quoted text))
  | .custom _ => "Custom(..)"

def Scope.inspect : Scope → String
  | ⟨header, body, close, indent⟩ =>
    inspectRecord "Scope"
      [("header", quoted header),
       ("body", body.inspect),
       ("close", inspectOption close),
       ("indent", indent.inspect)]

end

end CodeBlocks
