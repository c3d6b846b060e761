/-
**Programs of builder steps.**

A program is a list of steps.  A step adds to a block, changes its style, or looks at it; scopes,
conditions and loops hold programs of their own.  A program can be run by editing in place and by
chaining, and answers one observation per step.

Main definitions:

* `CodeBlocks.Step`, `CodeBlocks.Look` — the steps;
* `CodeBlocks.Observation` — the answers;
* `CodeBlocks.Step.edit`, `CodeBlocks.Step.editAll` — running in place;
* `CodeBlocks.Step.chain`, `CodeBlocks.Step.chainAll` — running by chaining.
-/
import CodeBlocks.Block.Builder
import CodeBlocks.Block.Inspect
import CodeBlocks.Node.Render

set_option relaxedAutoImplicit false
set_option autoImplicit false

namespace CodeBlocks

/-! ### Steps and observations -/

inductive Look where
  | code (level : Nat)
  | state
  | childState
  | nodes
  | inspected

/-- **A step of a program.** -/
inductive Step where
  | statement (text : String)
  | verbatim (text : String)
  | custom (thing : Renderable)
  | node (node : Node)
  | extend (nodes : List Node)
  | restyle (indent : Indent)
  | each (items : List String) (before after : String)
  /-- For each item in turn the steps that it gives, on the same block. -/
  | forEach (items : List String) (steps : String → List Step)
  | scope (header close : String) (body : List Step)
  | when (condition : Bool) (steps : List Step)
  | look (way : Look)

/-- What of a block can be asked for without its nodes. -/
structure BlockState where
  size : Nat
  separator : String
  indent : Indent
deriving DecidableEq, Repr

/-- **The answer to a step.** -/
inductive Observation where
  | size (count : Nat)
  | nested (inner : List Observation) (count : Nat)
  | code (outcome : Except RenderError String)
  | state (state : BlockState)
  | nodes (nodes : List Node)
  | inspected (text : String)

def Block.state (block : Block) : BlockState := ⟨block.size, block.separator, block.indent⟩

def Look.at : Look → Block → Observation
  | code level, block => .code (block.render level)
  | state, block => .state block.state
  | childState, block => .state block.child.state
  | nodes, block => .nodes block.nodes
  | inspected, block => .inspected block.inspect

namespace Step

/-! ### Running in place -/

/-- The observation after an action: the number of nodes. -/
def sized (action : Edit Unit) : Edit Observation := do
  action
  return .size (← get).size

mutual

/-- **A step, by editing in place.** -/
def edit : Step → Edit Observation
  | statement text => sized (Edit.statement text)
  | verbatim text => sized (Edit.verbatim text)
  | custom thing => sized (Edit.custom thing)
  | node n => sized (Edit.push n)
  | extend nodes => sized (Edit.append nodes)
  | restyle indent => sized (Edit.restyle indent)
  | each items before after => sized (Edit.each items fun item => before ++ item ++ after)
  | forEach items steps => do
    let inner ← items.mapM fun item => editAll (steps item)
    return .nested inner.flatten (← get).size
  | scope header close body => do
    let inner ← Edit.scope header close (editAll body)
    return .nested inner (← get).size
  | when true steps => do
    let inner ← editAll steps
    return .nested inner (← get).size
  | when false _ => do
    return .nested [] (← get).size
  | look way => do
    return way.at (← get)

def editAll : List Step → Edit (List Observation)
  | [] => return []
  | step :: steps => do
    let first ← edit step
    let rest ← editAll steps
    return first :: rest

end

/-! ### Running by chaining -/

def measured (block : Block) : Observation × Block := (.size block.size, block)

mutual

/-- **A step, by chaining.** -/
def chain : Step → Block → Observation × Block
  | statement text, block => measured (block.statement text)
  | verbatim text, block => measured (block.verbatim text)
  | custom thing, block => measured (block.custom thing)
  | node n, block => measured (block.push n)
  | extend nodes, block => measured (block.append nodes)
  | restyle indent, block => measured (block.restyle indent)
  | each items before after, block =>
    measured (block.each items fun b item => b.statement (before ++ item ++ after))
  | forEach items steps, block =>
    let (inner, block) := block.eachWith items fun b item => chainAll (steps item) b
    (.nested inner.flatten block.size, block)
  | scope header close body, block =>
    let (inner, block) := block.scopeWith header close (chainAll body)
    (.nested inner block.size, block)
  | when condition steps, block =>
    let (inner, block) := if condition then chainAll steps block else ([], block)
    (.nested inner block.size, block)
  | look way, block => (way.at block, block)

def chainAll : List Step → Block → List Observation × Block
  | [], block => ([], block)
  | step :: steps, block =>
    let (first, block) := chain step block
    let (rest, block) := chainAll steps block
    (first :: rest, block)

end

end Step

end CodeBlocks
