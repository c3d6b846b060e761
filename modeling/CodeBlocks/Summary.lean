/-
**Summaries of manifests.**

A summary says for each block how many nodes it has and of which kinds, and warns of what renders
nothing.

Main definitions:

* `CodeBlocks.tally` — how often each value occurs, in order of first appearance;
* `CodeBlocks.Summary`, `CodeBlocks.BlockSummary` — the summary;
* `CodeBlocks.Manifest.warnings`, `CodeBlocks.Manifest.summarize` — **of a manifest**;
* `CodeBlocks.Summary.lines` — the report on it.
-/
import CodeBlocks.Manifest.Build
import CodeBlocks.Report.Line

set_option relaxedAutoImplicit false
set_option autoImplicit false

namespace CodeBlocks

/-! ### Tallies -/

def tallyOne {α : Type} [DecidableEq α] (value : α) : List (α × Nat) → List (α × Nat)
  | [] => [(value, 1)]
  | (counted, count) :: more =>
    if counted = value then (counted, count + 1) :: more
    else (counted, count) :: tallyOne value more

/-- **How often each value occurs**, in order of first appearance. -/
def tally {α : Type} [DecidableEq α] (values : List α) : List (α × Nat) :=
  values.foldl (fun counts value => tallyOne value counts) []

/-! ### Summaries -/

inductive Warning where
  | emptyBlock (name : String)
  | noBlocks
deriving DecidableEq, Repr

def Warning.message : Warning → String
  | emptyBlock name => s!"block '{name}' is empty and renders nothing"
  | noBlocks => "no blocks defined"

/-- **The summary of a block.** -/
structure BlockSummary where
  name : String
  description : Option String := none
  /-- The nodes that stand directly in the block. -/
  nodes : Nat
  /-- The nodes at all depths. -/
  total : Nat
  /-- The kinds of the nodes that stand directly in the block. -/
  kinds : List (NodeKind × Nat)
deriving DecidableEq, Repr

/-- **The summary of a manifest.** -/
structure Summary where
  path : String
  dialect : String
  separator : String
  indent : Indent
  blocks : List BlockSummary
  warnings : List String
deriving DecidableEq, Repr

def BlockSpec.summarize (dialect : Dialect) (name : String) (spec : BlockSpec) : BlockSummary where
  name
  description := spec.description
  nodes := spec.nodes.length
  total := spec.total
  kinds := tally ((spec.build dialect).nodes.map Node.kind)

/-- What a manifest is warned of: empty blocks in order, or no blocks at all. -/
def Manifest.warnings (manifest : Manifest) : List Warning :=
  (manifest.blocks.entries.filter fun entry => entry.2.nodes.isEmpty).map
      (fun entry => .emptyBlock entry.1) ++
    if manifest.blocks.entries.isEmpty then [.noBlocks] else []

/-- **The summary of a manifest** that was read from a path. -/
def Manifest.summarize (manifest : Manifest) (path : String) : Summary :=
  let dialect := manifest.settings.resolved
  { path
    dialect := dialect.name
    separator := dialect.separator
    indent := dialect.indent
    blocks := manifest.blocks.entries.map fun entry => entry.2.summarize dialect entry.1
    warnings := manifest.warnings.map Warning.message }

/-! ### The report -/

def BlockSummary.words (block : BlockSummary) : String :=
  let kinds := block.kinds.map fun entry => s!"{entry.1.name}: {entry.2}"
  s!"{block.name} ({block.nodes} nodes, {block.total} total" ++
    (if kinds.isEmpty then "" else "; " ++ ", ".intercalate kinds) ++ ")" ++
    (match block.description with
      | some description => ": " ++ description
      | none => "")

/-- **The report on a summary**, warnings first. -/
def Summary.lines (summary : Summary) : List ReportLine :=
  summary.warnings.map .warning ++
    (if summary.warnings.isEmpty then [] else [.blank]) ++
    [.status s!"✓ {summary.path} is valid",
     .blank,
     .keyValue "dialect" summary.dialect,
     .keyValue "separator" (if summary.separator = "" then "(none)" else summary.separator),
     .keyValue "indent" summary.indent.describe,
     .keyValue "blocks" (ReportLine.countOfBlocks summary.blocks.length)] ++
    summary.blocks.map fun block => .listItem block.words

end CodeBlocks
