/-
**Blocks that are built further.**

A block can be built further in place, by chaining, and by both in any mix: a chain may go on where
an editing program left off, and the body of a scope, of a condition or of a loop may be either.
Whatever is done, nodes are only added at the end, and the separator stays.  The text of the block
is therefore stable: what it was before is the beginning of what it is afterwards, and a failure
stays the failure that it was, whatever is added behind the node that fails.

Main definitions:

* `CodeBlocks.Block.Becomes` — **a block is built further**, by steps of both ways in any mix;
* `CodeBlocks.Block.Extends` — what all steps keep: the nodes in front, and the separator;
* `CodeBlocks.Block.KeepsText` — earlier nodes, texts and failures are kept.

Main results:

* `CodeBlocks.Step.chain_extends` — **each step only adds**;
* `CodeBlocks.Block.Becomes.extends` — and so does all building;
* `CodeBlocks.Block.Extends.render_eq` — the text of a block that was built further;
* `CodeBlocks.Block.keepsText_of_becomes` — **what was built before is kept**.
-/
import CodeBlocks.Node.Leaf
import CodeBlocks.Proofs.Building.Agreement

set_option relaxedAutoImplicit false
set_option autoImplicit false

namespace CodeBlocks

namespace Block

/-! ### Building further -/

/-- **A block is built further.**  Single steps are taken in place or by chaining.  The ways to put
steps together are those of both, and what is inside of them can again be of any kind. -/
inductive Becomes : Block → Block → Prop
  | refl (block : Block) : Becomes block block
  | trans {first second third : Block} :
      Becomes first second → Becomes second third → Becomes first third
  /-- A step in place. -/
  | edit (step : Step) (block : Block) : Becomes block ((Step.edit step).run block).2
  /-- A step of a chain. -/
  | chain (step : Step) (block : Block) : Becomes block (Step.chain step block).2
  /-- A scope in place, whose body is a program that builds its child further. -/
  | editScope {α : Type} {block : Block} {body : Edit α} (header close : String) :
      Becomes block.child (body.run block.child).2 →
      Becomes block ((Edit.scope header close body).run block).2
  /-- A scope of a chain. -/
  | scope {block : Block} {fill : Block → Block} (header close : String) :
      Becomes block.child (fill block.child) → Becomes block (block.scope header close fill)
  /-- A condition of a chain. -/
  | when {block : Block} {more : Block → Block} (condition : Bool) :
      Becomes block (more block) → Becomes block (block.when condition more)
  /-- A loop of a chain. -/
  | each {α : Type} {more : Block → α → Block} (block : Block) (items : List α) :
      (∀ inner item, item ∈ items → Becomes inner (more inner item)) →
      Becomes block (block.each items more)

/-! ### What all steps keep -/

/-- **A block extends another**: it has the same nodes and then perhaps some more, and the same
separator.  The style may differ. -/
structure Extends (before after : Block) : Prop where
  nodes : before.nodes <+: after.nodes
  separator : after.separator = before.separator

namespace Extends

variable {before between after : Block}

theorem refl (block : Block) : Extends block block := ⟨List.prefix_rfl, rfl⟩

theorem trans (first : before.Extends between) (second : between.Extends after) :
    before.Extends after :=
  ⟨first.nodes.trans second.nodes, second.separator.trans first.separator⟩

theorem append (block : Block) (nodes : List Node) : block.Extends (block.append nodes) :=
  ⟨List.prefix_append _ _, rfl⟩

theorem push (block : Block) (node : Node) : block.Extends (block.push node) := append block [node]

theorem restyle (block : Block) (indent : Indent) : block.Extends (block.restyle indent) :=
  ⟨List.prefix_rfl, rfl⟩

theorem when {more : Block → Block} (condition : Bool) (extend : before.Extends (more before)) :
    before.Extends (before.when condition more) := by
  cases condition with
  | false => exact refl before
  | true => exact extend

/-- A loop extends a block if each of its rounds extends the block that it starts from. -/
theorem each {α : Type} {more : Block → α → Block} (block : Block) (items : List α)
    (extend : ∀ (inner : Block) (item : α), item ∈ items → inner.Extends (more inner item)) :
    block.Extends (block.each items more) := by
  induction items generalizing block with
  | nil => exact refl block
  | cons item items ih =>
      have first := extend block item (List.mem_cons_self ..)
      exact first.trans (ih (more block item) fun inner item member =>
        extend inner item (List.mem_cons_of_mem _ member))

end Extends

end Block

namespace Step

open Block (Extends)

mutual

-- A scope adds one node, whatever its body does to the child, so nothing is asked about the body.
/-- **Each step only adds.** -/
theorem chain_extends : ∀ (step : Step) (block : Block), block.Extends (chain step block).2
  | statement text, block => Extends.push block _
  | verbatim text, block => Extends.push block _
  | custom thing, block => Extends.push block _
  | node n, block => Extends.push block n
  | extend nodes, block => Extends.append block nodes
  | restyle indent, block => Extends.restyle block indent
  | each items before after, block =>
      Extends.each block items fun inner item _ => Extends.push inner _
  | forEach items steps, block => by
      rw [snd_chain_forEach]
      exact Extends.each block items fun inner item _ => chainAll_extends (steps item) inner
  | scope header close body, block => Extends.push block _
  | when condition steps, block => by
      rw [snd_chain_when]
      exact Extends.when condition (chainAll_extends steps block)
  | look way, block => Extends.refl block

theorem chainAll_extends :
    ∀ (steps : List Step) (block : Block), block.Extends (chainAll steps block).2
  | [], block => Extends.refl block
  | step :: steps, block =>
      (chain_extends step block).trans (chainAll_extends steps (chain step block).2)

end

end Step

namespace Block

/-- **All building only adds.** -/
theorem Becomes.extends {before after : Block} (built : before.Becomes after) :
    before.Extends after := by
  induction built with
  | refl block => exact Extends.refl block
  | trans _ _ first second => exact first.trans second
  | edit step block =>
      have same : (Step.edit step).run block = Step.chain step block := Step.edit_does step block
      rw [same]
      exact Step.chain_extends step block
  | chain step block => exact Step.chain_extends step block
  | editScope header close => exact Extends.push _ _
  | scope header close => exact Extends.push _ _
  | when condition _ ih => exact Extends.when condition ih
  | each block items _ ih => exact Extends.each block items ih

/-- A program of steps, by chaining, builds a block further. -/
theorem becomes_chainAll (steps : List Step) (block : Block) :
    block.Becomes (Step.chainAll steps block).2 := by
  induction steps generalizing block with
  | nil => exact Becomes.refl block
  | cons step steps ih => exact (Becomes.chain step block).trans (ih (Step.chain step block).2)

/-- A program of steps, in place, builds a block further. -/
theorem becomes_editAll (steps : List Step) (block : Block) :
    block.Becomes ((Step.editAll steps).run block).2 := by
  induction steps generalizing block with
  | nil => exact Becomes.refl block
  | cons step steps ih =>
      exact (Becomes.edit step block).trans (ih ((Step.edit step).run block).2)

/-! ### Texts -/

/-- **The text of a block that was built further**: the text that it had, and then that of the nodes
that were added. -/
theorem Extends.render_eq {before after : Block} (extend : before.Extends after) :
    ∃ added, after.nodes = before.nodes ++ added ∧
      ∀ level, after.render level = (do
        let text ← before.render level
        let rest ← renderNodes before.separator added level
        return text ++ rest) := by
  obtain ⟨⟨added, whole⟩, separator⟩ := extend
  refine ⟨added, whole.symm, ?_⟩
  intro level
  obtain ⟨nodes, mark, style⟩ := before
  obtain ⟨nodesAfter, markAfter, styleAfter⟩ := after
  obtain rfl : nodes ++ added = nodesAfter := whole
  obtain rfl : markAfter = mark := separator
  exact renderNodes_append markAfter nodes added level

/-- **What was there is kept**: the nodes in front of those that were added, a text as the beginning
of the text afterwards, and a failure as it was. -/
structure KeepsText (level : Nat) (before after : Block) : Prop where
  nodes : before.nodes <+: after.nodes
  text : ∀ earlier later, before.render level = .ok earlier → after.render level = .ok later →
    ∃ rest, later = earlier ++ rest
  failure : ∀ error, before.render level = .error error → after.render level = .error error

theorem Extends.keepsText {before after : Block} (extend : before.Extends after) (level : Nat) :
    KeepsText level before after := by
  obtain ⟨added, _, rendered⟩ := extend.render_eq
  refine ⟨extend.nodes, ?_, ?_⟩
  · intro earlier later here there
    rw [rendered, here] at there
    cases more : renderNodes before.separator added level with
    | error error =>
        rw [more] at there
        cases there
    | ok rest =>
        rw [more] at there
        exact ⟨rest, (Except.ok.inj there).symm⟩
  · intro error failed
    rw [rendered, failed]
    rfl

/-- **What was built before is kept** by all further building, in place, by chaining and in any mix
of both, and so by every program of steps. -/
theorem keepsText_of_becomes (before : Block) (level : Nat) :
    (∀ after, before.Becomes after → KeepsText level before after) ∧
      ∀ steps, KeepsText level before (Step.chainAll steps before).2 ∧
        KeepsText level before ((Step.editAll steps).run before).2 := by
  have kept : ∀ after, before.Becomes after → KeepsText level before after :=
    fun after built => built.extends.keepsText level
  refine ⟨kept, ?_⟩
  intro steps
  exact ⟨kept _ (becomes_chainAll steps before), kept _ (becomes_editAll steps before)⟩

/-- One statement, as it stands before more is built. -/
def begun : Block where
  separator := ";"
  nodes := [.statement ⟨"a", .tab⟩]

/-- Built further by a condition of a chain, whose body adds a scope in place. -/
def continued : Block :=
  (begun.restyle .twoSpaces).when true fun inner =>
    ((Edit.scope "do" "od" (Edit.statement "b")).run inner).2

/-- Built further by a node without text. -/
def stuck : Block := begun.custom (.failing "leaf" "no text")

theorem keepsText_mixed :
    (begun.Becomes continued ∧ begun.render 1 = .ok "\ta;\n" ∧
        continued.render 1 = .ok "\ta;\n  do\n    b;\n  od\n" ∧ KeepsText 1 begun continued) ∧
      stuck.Becomes (stuck.statement "c") ∧
        stuck.render 0 = .error ⟨"leaf", "no text"⟩ ∧
        (stuck.statement "c").render 0 = .error ⟨"leaf", "no text"⟩ := by
  have restyled : begun.Becomes (begun.restyle .twoSpaces) := .chain (.restyle .twoSpaces) begun
  have inside : (begun.restyle .twoSpaces).child.Becomes
      ((Edit.statement "b").run (begun.restyle .twoSpaces).child).2 := .edit (.statement "b") _
  have built : begun.Becomes continued := restyled.trans (.when true (.editScope "do" "od" inside))
  have behind : stuck.Becomes (stuck.statement "c") := .chain (.statement "c") stuck
  have failed : stuck.render 0 = .error ⟨"leaf", "no text"⟩ := rfl
  have kept := (keepsText_of_becomes begun 1).1 continued built
  have stays := (keepsText_of_becomes stuck 0).1 _ behind
  exact ⟨⟨built, rfl, rfl, kept⟩, behind, failed, stays.failure _ failed⟩

end Block

end CodeBlocks
