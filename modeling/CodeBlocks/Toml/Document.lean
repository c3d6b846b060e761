/-
**TOML documents.**

A document starts with the pairs of its own table, and goes on with sections, each a header with the
pairs below it.

Main definitions:

* `CodeBlocks.Toml.sectionsOf` — the lines of a document, as first pairs and sections;
* `CodeBlocks.Toml.Table.ofText` — **the document of a text**.
-/
import CodeBlocks.Toml.Grammar

set_option relaxedAutoImplicit false
set_option autoImplicit false

namespace CodeBlocks.Toml

/-- The lines of a document, as the pairs in front of the first header and the sections. -/
def sectionsOf : List Line → List Pair × List Section
  | [] => ([], [])
  | .pair pair :: lines =>
    let (pairs, parts) := sectionsOf lines
    (pair :: pairs, parts)
  | .header header :: lines =>
    let (pairs, parts) := sectionsOf lines
    ([], ⟨header, pairs⟩ :: parts)

def Table.ofLines (lines : List Line) : Except SyntaxFault Table := do
  let (pairs, parts) := sectionsOf lines
  let root ← Table.insertAll ⟨.headed, []⟩ pairs
  parts.foldlM Table.addSection root

/-- **The document of a text.** -/
def Table.ofText (text : String) : Except SyntaxFault Table := do
  Table.ofLines (← readLines (← tokensOf text))

end CodeBlocks.Toml
