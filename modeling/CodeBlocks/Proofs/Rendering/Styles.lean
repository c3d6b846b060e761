/-
**The style as a variable with a scope.**

A block has a style of its own.  It is written into every statement and every scope at the time
when they are added, and handed on to the child that becomes the body of a scope.  Here the same
programs of steps are read a second time, without blocks: a step puts out its lines at once, and
the style is a variable that a restyling sets.  The steps of a condition and the rounds of a loop
set the variable of the steps around them.  The body of a scope starts with the value that the
scope finds, and what it sets is gone when it ends.  The separator is a constant.

Lines that are out do not change, so this reading says by itself that a restyling reaches only what
is added later.  The block that a program leaves renders to just these lines.

Main definitions:

* `CodeBlocks.Output` — lines, and the style that comes after them;
* `CodeBlocks.Step.output`, `CodeBlocks.Step.outputAll` — what steps put out at a level;
* `CodeBlocks.Step.isPlain` — the steps that add statements, verbatim text and scopes of such;
* `CodeBlocks.Output.Draws` — a block has become another as an output says.

Main results:

* `CodeBlocks.Step.chain_draws` — **a step changes a block as its output says**, whatever the step;
* `CodeBlocks.Step.customs_chain` — plain steps add no custom nodes;
* `CodeBlocks.Step.render_eq_outputAll` — **a block that is built by plain steps renders to what
  they put out**.
-/
import CodeBlocks.Proofs.Building.Stability
import CodeBlocks.Proofs.Rendering.Chunks

set_option relaxedAutoImplicit false
set_option autoImplicit false

namespace CodeBlocks

/-! ### Outputs -/

/-- **Lines, and the style that comes after them.** -/
structure Output where
  lines : List String
  style : Indent

namespace Output

/-- The text of an output: each of its lines, and one line end behind it. -/
def text (output : Output) : String := terminated output.lines

def start (style : Indent) : Output := ⟨[], style⟩

/-- An output and then another one, which finds the style that the first one leaves. -/
def andThen (first : Output) (next : Indent → Output) : Output :=
  let second := next first.style
  ⟨first.lines ++ second.lines, second.style⟩

/-- The outputs of several rounds, each of which finds the style that the round before it leaves. -/
def rounds {α : Type} (items : List α) (round : α → Indent → Output) (style : Indent) : Output :=
  items.foldl (fun output item => output.andThen (round item)) (start style)

end Output

/-! ### What steps put out -/

namespace Step

mutual

/-- **What a step puts out** in a block with the given separator, where it finds a style, at a
level.  A node that is added as a whole brings its own styles. -/
def output (separator : String) : Step → Indent → Nat → Output
  | statement text, style, level => ⟨[style.lead level ++ text ++ separator], style⟩
  | verbatim text, style, _ => ⟨[text], style⟩
  | custom thing, style, level => ⟨[thing.textAt level], style⟩
  | node n, style, level => ⟨n.chunks separator level, style⟩
  | extend nodes, style, level => ⟨Block.chunksOf separator nodes level, style⟩
  | restyle indent, _, _ => ⟨[], indent⟩
  | each items before after, style, level =>
    ⟨items.map fun item => style.lead level ++ (before ++ item ++ after) ++ separator, style⟩
  | forEach items steps, style, level =>
    Output.rounds items (fun item found => outputAll separator (steps item) found level) style
  | scope header close body, style, level =>
    let inner := outputAll separator body style (level + 1)
    ⟨(if header = "" then [] else [style.lead level ++ header]) ++ inner.lines ++
      [style.lead level ++ close], style⟩
  | when condition steps, style, level =>
    if condition then outputAll separator steps style level else Output.start style
  | look _, style, _ => Output.start style

def outputAll (separator : String) : List Step → Indent → Nat → Output
  | [], style, _ => Output.start style
  | step :: steps, style, level =>
    (output separator step style level).andThen fun found => outputAll separator steps found level

end

mutual

/-- **Plain steps** add statements, verbatim text and scopes of plain steps.  They may change the
style and look at the block. -/
def isPlain : Step → Bool
  | statement _ => true
  | verbatim _ => true
  | custom _ => false
  | node _ => false
  | extend _ => false
  | restyle _ => true
  | each _ _ _ => true
  | forEach items steps => items.all fun item => arePlain (steps item)
  | scope _ _ body => arePlain body
  | when _ steps => arePlain steps
  | look _ => true

def arePlain : List Step → Bool
  | [] => true
  | step :: steps => isPlain step && arePlain steps

end

end Step

/-! ### Blocks that have become others -/

theorem Block.customs_push (block : Block) (node : Node) (level : Nat)
    (none : node.customs level = []) : (block.push node).customs level = block.customs level := by
  rw [customs_eq, customs_eq, nodes_push, customsOf_append, customsOf, none]
  exact List.append_nil _

theorem Block.customs_each {α : Type} {more : Block → α → Block} (block : Block) (items : List α)
    (level : Nat) (keep : ∀ (inner : Block) (item : α), item ∈ items →
      (more inner item).customs level = inner.customs level) :
    (block.each items more).customs level = block.customs level := by
  induction items generalizing block with
  | nil => rfl
  | cons item items ih =>
      have others := ih (more block item) fun inner other member =>
        keep inner other (List.mem_cons_of_mem _ member)
      exact others.trans (keep block item (List.mem_cons_self ..))

/-- **A block has become another as an output says**: it has the lines of the output behind its own,
the same separator, and the style of the output. -/
structure Output.Draws (output : Output) (level : Nat) (before after : Block) : Prop where
  lines : after.chunks level = before.chunks level ++ output.lines
  separator : after.separator = before.separator
  style : after.indent = output.style

namespace Output.Draws

variable {before between after : Block} {level : Nat}

theorem start (block : Block) (level : Nat) :
    (Output.start block.indent).Draws level block block :=
  ⟨(List.append_nil _).symm, rfl, rfl⟩

theorem andThen {first : Output} {next : Indent → Output} (here : first.Draws level before between)
    (there : (next between.indent).Draws level between after) :
    (first.andThen next).Draws level before after := by
  rw [here.style] at there
  refine ⟨?_, there.separator.trans here.separator, there.style⟩
  rw [there.lines, here.lines, List.append_assoc]
  rfl

theorem append (block : Block) (nodes : List Node) (level : Nat) :
    Output.Draws ⟨Block.chunksOf block.separator nodes level, block.indent⟩ level block
      (block.append nodes) := by
  refine ⟨?_, rfl, rfl⟩
  rw [Block.chunks_eq, Block.chunks_eq]
  exact Block.chunksOf_append block.separator block.nodes nodes level

theorem push (block : Block) (node : Node) (level : Nat) :
    Output.Draws ⟨node.chunks block.separator level, block.indent⟩ level block
      (block.push node) := by
  have one := append block [node] level
  rwa [Block.chunksOf, Block.chunksOf, List.append_nil] at one

theorem restyle (block : Block) (indent : Indent) (level : Nat) :
    Output.Draws ⟨[], indent⟩ level block (block.restyle indent) := by
  refine ⟨?_, rfl, rfl⟩
  rw [Block.chunks_eq, Block.chunks_eq]
  exact (List.append_nil _).symm

theorem statement (block : Block) (text : String) (level : Nat) :
    Output.Draws ⟨[block.indent.lead level ++ text ++ block.separator], block.indent⟩ level block
      (block.statement text) :=
  push block (.statement ⟨text, block.indent⟩) level

/-- Statements for several items are all in the style of the block. -/
theorem statements {α : Type} (items : List α) (text : α → String) (block : Block) (level : Nat) :
    Output.Draws
      ⟨items.map fun item => block.indent.lead level ++ text item ++ block.separator, block.indent⟩
      level block (block.each items fun inner item => inner.statement (text item)) := by
  induction items generalizing block with
  | nil => exact start block level
  | cons item items ih =>
      let next : Indent → Output := fun style =>
        ⟨items.map fun item => style.lead level ++ text item ++ block.separator, style⟩
      have first := statement block (text item) level
      have others : (next block.indent).Draws level (block.statement (text item))
          ((block.statement (text item)).each items fun inner item => inner.statement (text item)) :=
        ih (block.statement (text item))
      exact first.andThen others

/-- A scope with a closing line is drawn around what is drawn on a child. -/
theorem scope {block body : Block} {inner : Output} {level : Nat} (header close : String)
    (inside : inner.Draws (level + 1) block.child body) :
    Output.Draws
      ⟨(if header = "" then [] else [block.indent.lead level ++ header]) ++ inner.lines ++
        [block.indent.lead level ++ close], block.indent⟩
      level block (block.push (.scope ⟨header, body, some close, block.indent⟩)) := by
  have lines : body.chunks (level + 1) = inner.lines := by
    rw [inside.lines, Block.chunks_eq]
    rfl
  have whole : Node.chunks block.separator (.scope ⟨header, body, some close, block.indent⟩) level =
      (if header = "" then [] else [block.indent.lead level ++ header]) ++ inner.lines ++
        [block.indent.lead level ++ close] := by
    rw [Node.chunks, Scope.chunks, if_neg (by simp), lines]
    rfl
  rw [← whole]
  exact push block _ level

/-- A loop draws what its rounds put out, if each of them draws on the block that it starts from. -/
theorem rounds {α : Type} {more : Block → α → Block} {round : α → Indent → Output}
    {first : Output} (items : List α) (here : first.Draws level before between)
    (draws : ∀ (inner : Block) (item : α), inner.separator = before.separator →
      (round item inner.indent).Draws level inner (more inner item)) :
    (items.foldl (fun output item => output.andThen (round item)) first).Draws level before
      (between.each items more) := by
  induction items generalizing between first with
  | nil => exact here
  | cons item items ih => exact ih (here.andThen (draws between item here.separator))

end Output.Draws

/-! ### Steps and their outputs -/

namespace Step

mutual

-- The induction follows the steps.  The body of a scope is drawn on the child, which has nothing of
-- its own, one level further in; the style that it ends with goes into the child and no further.
/-- **A step changes a block as its output says.** -/
theorem chain_draws (level : Nat) :
    ∀ (step : Step) (block : Block),
      (output block.separator step block.indent level).Draws level block (chain step block).2
  | statement text, block => Output.Draws.statement block text level
  | verbatim text, block => Output.Draws.push block (.verbatim text) level
  | custom thing, block => Output.Draws.push block (.custom thing) level
  | node n, block => Output.Draws.push block n level
  | extend nodes, block => Output.Draws.append block nodes level
  | restyle indent, block => Output.Draws.restyle block indent level
  | each items before after, block =>
      Output.Draws.statements items (fun item => before ++ item ++ after) block level
  | forEach items steps, block => by
      rw [snd_chain_forEach, output]
      refine Output.Draws.rounds items (Output.Draws.start block level) ?_
      intro inner item same
      rw [← same]
      exact chainAll_draws level (steps item) inner
  | scope header close body, block =>
      Output.Draws.scope header close (chainAll_draws (level + 1) body block.child)
  | when condition steps, block => by
      rw [snd_chain_when, output]
      cases condition with
      | false => exact Output.Draws.start block level
      | true => exact chainAll_draws level steps block
  | look way, block => Output.Draws.start block level

theorem chainAll_draws (level : Nat) :
    ∀ (steps : List Step) (block : Block),
      (outputAll block.separator steps block.indent level).Draws level block
        (chainAll steps block).2
  | [], block => Output.Draws.start block level
  | step :: steps, block => by
      have first := chain_draws level step block
      have others := chainAll_draws level steps (chain step block).2
      rw [first.separator] at others
      exact first.andThen others

end

/-! ### Plain steps -/

mutual

/-- **Plain steps add no custom nodes.** -/
theorem customs_chain (level : Nat) :
    ∀ (step : Step), step.isPlain → ∀ block : Block,
      (chain step block).2.customs level = block.customs level
  | statement text, _, block => block.customs_push _ level rfl
  | verbatim text, _, block => block.customs_push _ level rfl
  | restyle indent, _, block => by
      rw [Block.customs_eq, Block.customs_eq]
      rfl
  | each items before after, _, block =>
      block.customs_each items level fun inner item _ => inner.customs_push _ level rfl
  | forEach items steps, plain, block => by
      rw [isPlain, List.all_eq_true] at plain
      rw [snd_chain_forEach]
      exact block.customs_each items level fun inner item member =>
        customs_chainAll level (steps item) (plain item member) inner
  | scope header close body, plain, block => by
      have inside : (chainAll body block.child).2.customs (level + 1) = [] := by
        rw [customs_chainAll (level + 1) body plain block.child, Block.customs_eq]
        rfl
      exact block.customs_push _ level inside
  | when condition steps, plain, block => by
      rw [snd_chain_when]
      cases condition with
      | false => rfl
      | true => exact customs_chainAll level steps plain block
  | look way, _, block => rfl

theorem customs_chainAll (level : Nat) :
    ∀ (steps : List Step), arePlain steps → ∀ block : Block,
      (chainAll steps block).2.customs level = block.customs level
  | [], _, block => rfl
  | step :: steps, plain, block => by
      rw [arePlain, Bool.and_eq_true] at plain
      have first := customs_chain level step plain.1 block
      have others := customs_chainAll level steps plain.2 (chain step block).2
      exact others.trans first

end

/-- What a plain program adds to a block renders to the lines that the program puts out. -/
theorem renderNodes_added {steps : List Step} (plain : arePlain steps) (root : Block) (level : Nat)
    {added : List Node} (whole : (chainAll steps root).2.nodes = root.nodes ++ added) :
    Block.renderNodes root.separator added level =
      .ok (outputAll root.separator steps root.indent level).text := by
  have drawn := chainAll_draws level steps root
  have lines : Block.chunksOf root.separator added level =
      (outputAll root.separator steps root.indent level).lines := by
    have both := drawn.lines
    rw [Block.chunks_eq, Block.chunks_eq, drawn.separator, whole, Block.chunksOf_append] at both
    exact List.append_cancel_left both
  have customs : Block.customsOf added level = [] := by
    have both := customs_chainAll level steps plain root
    rw [Block.customs_eq, Block.customs_eq, whole, Block.customsOf_append] at both
    exact List.append_cancel_left (both.trans (List.append_nil _).symm)
  rw [Output.text, ← lines]
  refine Block.renderNodes_eq_terminated root.separator added level ?_
  rw [customs]
  exact fun entry member => absurd member List.not_mem_nil

/-- **A block that is built by plain steps renders to what they put out**, at every level: its own
text comes first, and if it has no nodes of its own, there is nothing else.  It does not matter in
which of the two ways the steps are run. -/
theorem render_eq_outputAll (steps : List Step) (plain : arePlain steps) (root : Block)
    (level : Nat) :
    ((editAll steps).run root).2 = (chainAll steps root).2 ∧
      (chainAll steps root).2.render level = (root.render level).map (fun text =>
        text ++ (outputAll root.separator steps root.indent level).text) ∧
      (root.nodes = [] → (chainAll steps root).2.render level =
        .ok (outputAll root.separator steps root.indent level).text) := by
  obtain ⟨added, whole, rendered⟩ := (chainAll_extends steps root).render_eq
  have behind : (chainAll steps root).2.render level = (root.render level).map (fun text =>
      text ++ (outputAll root.separator steps root.indent level).text) := by
    rw [rendered, renderNodes_added plain root level whole]
    cases root.render level <;> rfl
  refine ⟨congrArg Prod.snd (editAll_does steps root), behind, ?_⟩
  intro none
  have empty : root.render level = .ok "" := by
    obtain ⟨nodes, separator, style⟩ := root
    obtain rfl : nodes = [] := none
    rfl
  rw [behind, empty, Except.map, String.empty_append]

/-- Stylings of a block, of a condition and a loop in it, and of the body of a scope. -/
def restylings : List Step :=
  [.statement "a", .when true [.restyle .tab],
    .scope "if" "fi" [.statement "b", .restyle .twoSpaces, .statement "c",
      .scope "" "end" [.statement "d"]],
    .forEach ["x", "y"] fun item => [.statement item, .restyle .twoSpaces], .verbatim "v"]

theorem render_restylings :
    arePlain restylings ∧
      (chainAll restylings { separator := ";" }).2.render 1 =
        .ok "    a;\n\tif\n\t\tb;\n    c;\n      d;\n    end\n\tfi\n\tx;\n  y;\nv\n" := by
  have plain : arePlain restylings := rfl
  obtain ⟨_, _, alone⟩ := render_eq_outputAll restylings plain { separator := ";" } 1
  refine ⟨plain, ?_⟩
  rw [alone rfl]
  rfl

end Step

end CodeBlocks
