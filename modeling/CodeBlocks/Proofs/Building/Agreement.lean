/-
**Editing in place and chaining agree.**

The two ways to build a block are written down apart.  An editing program changes the block at hand,
and the body of a scope is one more program, run on a child that then becomes part of a node.  A
chain maps blocks to blocks, and the body of a scope is one more map.  Each way of putting programs
together is compared here with the way of putting maps together that has the same name; a whole
program of steps then does the same both ways, with the same answer to each step on the way.

Main definitions:

* `CodeBlocks.Edit.Does` — a program does what a map does.

Main results:

* `CodeBlocks.Edit.Does.scope`, `CodeBlocks.Edit.Does.mapM` — **scopes and loops keep the
  agreement** of what is inside them;
* `CodeBlocks.Step.edit_does` — one step;
* `CodeBlocks.Step.editAll_run_eq_chainAll` — **all programs of steps**.
-/
import CodeBlocks.Block.Program
import Mathlib.Tactic.Common

set_option relaxedAutoImplicit false
set_option autoImplicit false

namespace CodeBlocks

/-! ### Programs and maps -/

namespace Edit

variable {α β : Type}

/-- **A program does what a map does**: it gives the same answer from every block, and leaves the
same block. -/
def Does (program : Edit α) (map : Block → α × Block) : Prop :=
  ∀ block, program.run block = map block

namespace Does

theorem sized {action : Edit Unit} {grow : Block → Block}
    (does : action.Does fun block => ((), grow block)) :
    (Step.sized action).Does fun block => Step.measured (grow block) := by
  intro block
  have grown : action.run block = ((), grow block) := does block
  change (Observation.size (action.run block).2.size, (action.run block).2) = _
  rw [grown]
  rfl

theorem each (items : List α) (text : α → String) :
    (Edit.each items text).Does fun block =>
      ((), block.each items fun inner item => inner.statement (text item)) := by
  intro block
  induction items generalizing block with
  | nil => rfl
  | cons item items ih => exact ih (block.statement (text item))

/-- **A scope**: the program of the body runs on the child that the map of the body starts from. -/
theorem scope {body : Edit α} {fill : Block → α × Block} (header close : String)
    (does : body.Does fill) :
    (Edit.scope header close body).Does fun block => block.scopeWith header close fill := by
  intro block
  have filled : body.run block.child = fill block.child := does block.child
  change ((body.run block.child).1,
    block.push (.scope ⟨header, (body.run block.child).2, some close, block.indent⟩)) = _
  rw [filled]
  rfl

/-- **A loop**: each round starts from the block that the round before it left. -/
theorem mapM {program : α → Edit β} {more : Block → α → β × Block}
    (does : ∀ item, (program item).Does fun block => more block item) (items : List α) :
    (items.mapM program).Does fun block => block.eachWith items more := by
  induction items with
  | nil =>
      intro block
      rfl
  | cons item items ih =>
      intro block
      have first : (program item).run block = more block item := does item block
      have others : (items.mapM program).run (more block item).2 =
          (more block item).2.eachWith items more := ih _
      rw [List.mapM_cons, StateT.run_bind, first]
      change ((more block item).1 :: ((items.mapM program).run (more block item).2).1,
        ((items.mapM program).run (more block item).2).2) = _
      rw [others]
      rfl

/-- The answers from inside of a step, with the number of nodes that it leaves. -/
theorem nested {program : Edit α} {map : Block → α × Block} (answers : α → List Observation)
    (does : program.Does map) :
    Does (do
        let inner ← program
        return Observation.nested (answers inner) (← get).size)
      fun block => (.nested (answers (map block).1) (map block).2.size, (map block).2) := by
  intro block
  have same : program.run block = map block := does block
  change (Observation.nested (answers (program.run block).1) (program.run block).2.size,
    (program.run block).2) = _
  rw [same]

end Does

end Edit

/-! ### Programs of steps -/

namespace Step

open Edit (Does)

mutual

-- The induction follows the steps.  Steps without steps inside agree by what they are; the others
-- put together what is inside them, and only there the block at hand changes: to the child of a
-- scope, and from round to round of a loop.
/-- **A step does the same both ways.** -/
theorem edit_does : ∀ step : Step, (edit step).Does (chain step)
  | statement text => Does.sized fun _ => rfl
  | verbatim text => Does.sized fun _ => rfl
  | custom thing => Does.sized fun _ => rfl
  | node n => Does.sized fun _ => rfl
  | extend nodes => Does.sized fun _ => rfl
  | restyle indent => Does.sized fun _ => rfl
  | each items before after => Does.sized (Does.each items fun item => before ++ item ++ after)
  | forEach items steps => by
      have rounds : (items.mapM fun item => editAll (steps item)).Does fun block =>
          block.eachWith items fun inner item => chainAll (steps item) inner :=
        Does.mapM (fun item => editAll_does (steps item)) items
      exact rounds.nested List.flatten
  | scope header close body => by
      have whole := Does.scope header close (editAll_does body)
      exact whole.nested id
  | when true steps => by
      have inside := editAll_does steps
      exact inside.nested id
  | when false steps => fun _ => rfl
  | look way => fun _ => rfl

theorem editAll_does : ∀ steps : List Step, (editAll steps).Does (chainAll steps)
  | [] => fun _ => rfl
  | step :: steps => by
      intro block
      have first : (edit step).run block = chain step block := edit_does step block
      have others :
          (editAll steps).run (chain step block).2 = chainAll steps (chain step block).2 :=
        editAll_does steps _
      change (((edit step).run block).1 :: ((editAll steps).run ((edit step).run block).2).1,
        ((editAll steps).run ((edit step).run block).2).2) = _
      rw [first, others]
      rfl

end

/-! ### The blocks that are left -/

/-- Apart from the answers, a condition of a program is a condition. -/
theorem snd_chain_when (condition : Bool) (steps : List Step) (block : Block) :
    (chain (when condition steps) block).2 =
      block.when condition fun inner => (chainAll steps inner).2 := by
  cases condition <;> rfl

/-- Apart from the answers, a loop of a program is a loop. -/
theorem snd_chain_forEach (items : List String) (steps : String → List Step) (block : Block) :
    (chain (forEach items steps) block).2 =
      block.each items fun inner item => (chainAll (steps item) inner).2 :=
  block.snd_eachWith items fun inner item => chainAll (steps item) inner

/-- **A program of steps does the same both ways**, from every block: it gives the same answers,
also from inside of scopes, conditions and loops, and leaves the same block. -/
theorem editAll_run_eq_chainAll (steps : List Step) (block : Block) :
    (editAll steps).run block = chainAll steps block :=
  editAll_does steps block

end Step

end CodeBlocks
