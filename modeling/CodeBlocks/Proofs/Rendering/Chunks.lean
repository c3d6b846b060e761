/-
**Rendering as a flat list of lines.**

`CodeBlocks.Block.render` and `CodeBlocks.Scope.code` call each other, and a scope without a
closing line gives up a line end that the block around it puts back.  Here the same text is read
off the tree directly, as a list of *chunks*: a statement is one chunk, a piece of verbatim text is
one, a custom node is one, and a scope is its header, the chunks of its body one level further in,
and its closing line.  No chunk knows where it stands in the text.

Main definitions:

* `CodeBlocks.terminated` — the text of chunks, each with one line end behind it;
* `CodeBlocks.Block.chunks`, `CodeBlocks.Node.chunks`, `CodeBlocks.Scope.chunks` — the chunks of a
  block, of a node in a block with a given separator, and of a scope;
* `CodeBlocks.Block.customs` — the custom nodes under a block, each with the level that it is
  reached with.

Main results:

* `CodeBlocks.Block.chunksOf_append` — chunks go along the nodes of a block;
* `CodeBlocks.dropLineEnd_terminated` — the line end that a scope without a closing line gives up
  is the one that the block around it adds;
* `CodeBlocks.Block.chunksOf_eq_nil_iff` — every node has a chunk, so only an empty body leaves
  nothing to give up;
* `CodeBlocks.Block.renderNodes_eq_terminated` — **nodes render to their chunks**, if the custom
  nodes among them do have texts;
* `CodeBlocks.Block.render_eq_terminated_chunks` — the same for a block.
-/
import CodeBlocks.Node.Leaf
import CodeBlocks.Node.Render
import Mathlib.Tactic.Common

set_option relaxedAutoImplicit false
set_option autoImplicit false

namespace CodeBlocks

/-! ### Texts of chunks -/

/-- **The text of chunks**: each of them, and one line end behind it. -/
def terminated (chunks : List String) : String :=
  String.join (chunks.map fun chunk => chunk ++ "\n")

@[simp] theorem terminated_nil : terminated [] = "" := rfl

theorem terminated_cons (chunk : String) (chunks : List String) :
    terminated (chunk :: chunks) = chunk ++ "\n" ++ terminated chunks := by
  simp [terminated, String.join_cons]

theorem terminated_append (chunks others : List String) :
    terminated (chunks ++ others) = terminated chunks ++ terminated others := by
  induction chunks with
  | nil => simp
  | cons chunk chunks ih =>
      rw [List.cons_append, terminated_cons, terminated_cons, ih, ← String.append_assoc]

theorem dropLineEnd_append_lineEnd (text : String) : dropLineEnd (text ++ "\n") = text := by
  have last : (text ++ "\n").toList = text.toList ++ ['\n'] := by simp
  rw [dropLineEnd, last, List.getLast?_concat, if_pos rfl, List.dropLast_concat]
  exact String.ofList_toList

/-- The chunks, or one empty chunk where there are none. -/
def orBlank : List String → List String
  | [] => [""]
  | chunk :: chunks => chunk :: chunks

theorem orBlank_of_ne_nil {chunks : List String} (some : chunks ≠ []) :
    orBlank chunks = chunks := by
  cases chunks with
  | nil => exact absurd rfl some
  | cons chunk chunks => rfl

/-- **The line end that is given up is the one that is added.**  Where there are no chunks there is
none to give up, and the one that is added ends an empty chunk. -/
theorem dropLineEnd_terminated (chunks : List String) :
    dropLineEnd (terminated chunks) ++ "\n" = terminated (orBlank chunks) := by
  -- The line end stands behind the last chunk, so the list is taken apart at its end.
  rcases List.eq_nil_or_concat chunks with rfl | ⟨front, last, rfl⟩
  · rfl
  · have split : terminated (front.concat last) = terminated front ++ last ++ "\n" := by
      simp [terminated_append, terminated_cons, String.append_assoc]
    rw [split, dropLineEnd_append_lineEnd, orBlank_of_ne_nil (by simp), ← split]

/-! ### The chunks of a tree -/

def Renderable.textAt (thing : Renderable) (level : Nat) : String :=
  (thing.code level).toOption.getD ""

/-- **The chunks of a scope** around the chunks of its body. -/
def Scope.frame (header : String) (close : Option String) (lead : String) (inner : List String) :
    List String :=
  (if header = "" then [] else [lead ++ header]) ++ inner ++
    (close.map fun last => lead ++ last).toList

mutual

/-- **The chunks of a block at a level.** -/
def Block.chunks : Block → Nat → List String
  | ⟨nodes, separator, _⟩, level => Block.chunksOf separator nodes level

def Block.chunksOf (separator : String) : List Node → Nat → List String
  | [], _ => []
  | node :: nodes, level => node.chunks separator level ++ Block.chunksOf separator nodes level

def Node.chunks (separator : String) : Node → Nat → List String
  | .statement line, level => [line.indent.lead level ++ line.text ++ separator]
  | .scope nested, level => nested.chunks level
  | .verbatim text, _ => [text]
  | .custom thing, level => [thing.textAt level]

/-- The chunks of a scope.  One that is empty throughout still is one line. -/
def Scope.chunks : Scope → Nat → List String
  | ⟨header, body, close, indent⟩, level =>
    if header = "" ∧ body.nodes = [] ∧ close = none then [""]
    else Scope.frame header close (indent.lead level) (body.chunks (level + 1))

end

mutual

/-- **The custom nodes under a block**, each with the level that it is reached with. -/
def Block.customs : Block → Nat → List (Renderable × Nat)
  | ⟨nodes, _, _⟩, level => Block.customsOf nodes level

def Block.customsOf : List Node → Nat → List (Renderable × Nat)
  | [], _ => []
  | node :: nodes, level => node.customs level ++ Block.customsOf nodes level

def Node.customs : Node → Nat → List (Renderable × Nat)
  | .statement _, _ => []
  | .scope nested, level => nested.customs level
  | .verbatim _, _ => []
  | .custom thing, level => [(thing, level)]

def Scope.customs : Scope → Nat → List (Renderable × Nat)
  | ⟨_, body, _, _⟩, level => body.customs (level + 1)

end

/-! ### Nodes one after the other -/

theorem Block.chunks_eq (block : Block) (level : Nat) :
    block.chunks level = Block.chunksOf block.separator block.nodes level := by
  cases block
  rfl

theorem Block.chunksOf_append (separator : String) (nodes more : List Node) (level : Nat) :
    Block.chunksOf separator (nodes ++ more) level =
      Block.chunksOf separator nodes level ++ Block.chunksOf separator more level := by
  induction nodes with
  | nil => rfl
  | cons node nodes ih => rw [List.cons_append, chunksOf, chunksOf, ih, List.append_assoc]

theorem Block.customs_eq (block : Block) (level : Nat) :
    block.customs level = Block.customsOf block.nodes level := by
  cases block
  rfl

theorem Block.customsOf_append (nodes more : List Node) (level : Nat) :
    Block.customsOf (nodes ++ more) level =
      Block.customsOf nodes level ++ Block.customsOf more level := by
  induction nodes with
  | nil => rfl
  | cons node nodes ih => rw [List.cons_append, customsOf, customsOf, ih, List.append_assoc]

/-! ### Custom nodes with texts -/

def AllSucceed (customs : List (Renderable × Nat)) : Prop :=
  ∀ entry ∈ customs, ∃ text, entry.1.code entry.2 = .ok text

@[simp] theorem allSucceed_append {customs others : List (Renderable × Nat)} :
    AllSucceed (customs ++ others) ↔ AllSucceed customs ∧ AllSucceed others := by
  simp only [AllSucceed, List.mem_append, or_imp, forall_and]

theorem Renderable.code_eq_textAt {thing : Renderable} {level : Nat}
    (succeed : AllSucceed [(thing, level)]) : thing.code level = .ok (thing.textAt level) := by
  obtain ⟨text, found⟩ := succeed (thing, level) (List.mem_singleton.2 rfl)
  have found : thing.code level = .ok text := found
  rw [Renderable.textAt, found]
  rfl

/-! ### Every node has a chunk -/

theorem Scope.frame_eq_nil_iff {header : String} {close : Option String} {lead : String}
    {inner : List String} :
    Scope.frame header close lead inner = [] ↔ header = "" ∧ inner = [] ∧ close = none := by
  rw [Scope.frame, List.append_eq_nil_iff, List.append_eq_nil_iff]
  by_cases named : header = ""
  · cases close <;> simp [named]
  · simp [named]

mutual

/-- Only a block without nodes has no chunks. -/
theorem Block.chunksOf_eq_nil_iff (separator : String) :
    ∀ (nodes : List Node) (level : Nat), Block.chunksOf separator nodes level = [] ↔ nodes = []
  | [], level => by simp [Block.chunksOf]
  | node :: nodes, level => by
      have here := Node.chunks_ne_nil separator node level
      simp [Block.chunksOf, here]

theorem Node.chunks_ne_nil (separator : String) :
    ∀ (node : Node) (level : Nat), node.chunks separator level ≠ []
  | .statement line, level => by simp [Node.chunks]
  | .scope ⟨header, ⟨nodes, inner, style⟩, close, indent⟩, level => by
      -- The frame holds nothing only if the scope is empty throughout, and then it is one line.
      have body := Block.chunksOf_eq_nil_iff inner nodes (level + 1)
      rw [Node.chunks, Scope.chunks]
      split
      case isTrue => exact List.cons_ne_nil _ _
      case isFalse something =>
        rw [Ne, Scope.frame_eq_nil_iff, Block.chunks, body]
        exact something
  | .verbatim text, level => by simp [Node.chunks]
  | .custom thing, level => by simp [Node.chunks]

end

theorem Block.chunks_eq_nil_iff (block : Block) (level : Nat) :
    block.chunks level = [] ↔ block.nodes = [] := by
  obtain ⟨nodes, separator, style⟩ := block
  exact Block.chunksOf_eq_nil_iff separator nodes level

/-- A scope is one empty line exactly if its frame holds nothing. -/
theorem Scope.chunks_eq_orBlank (header : String) (body : Block) (close : Option String)
    (indent : Indent) (level : Nat) :
    Scope.chunks ⟨header, body, close, indent⟩ level =
      orBlank (Scope.frame header close (indent.lead level) (body.chunks (level + 1))) := by
  have empty : Scope.frame header close (indent.lead level) (body.chunks (level + 1)) = [] ↔
      header = "" ∧ body.nodes = [] ∧ close = none := by
    rw [Scope.frame_eq_nil_iff, Block.chunks_eq_nil_iff]
  rw [Scope.chunks]
  split
  case isTrue nothing => rw [empty.2 nothing, orBlank]
  case isFalse something => rw [orBlank_of_ne_nil fun none => something (empty.1 none)]

/-! ### A scope around its body -/

/-- **A scope around the chunks of its body**, with the line end that the block around it adds. -/
theorem Scope.assemble_terminated (header : String) (close : Option String) (lead : String)
    (inner : List String) :
    Scope.assemble header close lead (terminated inner) ++ "\n" =
      terminated (orBlank (Scope.frame header close lead inner)) := by
  have opened : (if header = "" then "" else lead ++ header ++ "\n") ++ terminated inner =
      terminated ((if header = "" then [] else [lead ++ header]) ++ inner) := by
    rw [terminated_append]
    split <;> simp [terminated_cons]
  simp only [Scope.assemble, opened, Scope.frame]
  -- Only a scope without a closing line gives up the line end of its last chunk.
  cases close with
  | none =>
      rw [Option.map_none, Option.toList_none, List.append_nil]
      exact dropLineEnd_terminated _
  | some last =>
      rw [orBlank_of_ne_nil (by simp)]
      simp [terminated_append, terminated_cons, String.append_assoc]

/-! ### Rendering -/

mutual

-- The induction follows the tree.  The text of a node may lack its last line end, so what carries
-- the induction is the text together with what the block puts behind it.
/-- **Nodes render to their chunks.** -/
theorem Block.renderNodes_eq_terminated (separator : String) :
    ∀ (nodes : List Node) (level : Nat), AllSucceed (Block.customsOf nodes level) →
      Block.renderNodes separator nodes level =
        .ok (terminated (Block.chunksOf separator nodes level))
  | [], level, _ => rfl
  | node :: nodes, level, succeed => by
      rw [Block.customsOf, allSucceed_append] at succeed
      obtain ⟨text, found, ended⟩ := Node.code_eq_terminated separator node level succeed.1
      have rest := Block.renderNodes_eq_terminated separator nodes level succeed.2
      rw [Block.renderNodes, found, rest, Block.chunksOf, terminated_append, ← ended]
      rfl

/-- A node has a text, which with what the block puts behind it is the text of its chunks. -/
theorem Node.code_eq_terminated (separator : String) :
    ∀ (node : Node) (level : Nat), AllSucceed (node.customs level) →
      ∃ text, node.code level = .ok text ∧
        text ++ node.ending separator = terminated (node.chunks separator level)
  | .statement line, level, _ => by
      refine ⟨line.code level, rfl, ?_⟩
      simp [Node.ending, Node.takesSeparator, Node.chunks, terminated_cons, Statement.code,
        String.append_assoc]
  | .scope ⟨header, ⟨nodes, inner, style⟩, close, indent⟩, level, succeed => by
      have body := Block.renderNodes_eq_terminated inner nodes (level + 1) succeed
      refine ⟨Scope.assemble header close (indent.lead level)
        (terminated (Block.chunksOf inner nodes (level + 1))), ?_, ?_⟩
      · rw [Node.code, Scope.code, Block.render, body]
        rfl
      · rw [Node.chunks, Scope.chunks_eq_orBlank]
        exact Scope.assemble_terminated header close (indent.lead level) _
  | .verbatim text, level, _ => by
      refine ⟨text, rfl, ?_⟩
      simp [Node.ending, Node.takesSeparator, Node.chunks, terminated_cons]
  | .custom thing, level, succeed => by
      refine ⟨thing.textAt level, Renderable.code_eq_textAt succeed, ?_⟩
      simp [Node.ending, Node.takesSeparator, Node.chunks, terminated_cons]

end

/-- **A block renders to its chunks, each with one line end behind it**, if every custom node has a
text at the level that it is reached with. -/
theorem Block.render_eq_terminated_chunks (block : Block) (level : Nat)
    (succeed : AllSucceed (block.customs level)) :
    block.render level = .ok (terminated (block.chunks level)) := by
  obtain ⟨nodes, separator, style⟩ := block
  exact Block.renderNodes_eq_terminated separator nodes level succeed

/-- Scopes without closing lines inside each other, around an empty statement, a text that ends its
own last line and a scope without anything. -/
def Block.tangled : Block where
  separator := ";"
  nodes :=
    [.scope ⟨"else:", ⟨[.statement ⟨"", .tab⟩,
      .scope ⟨"", ⟨[.verbatim "a\n", .custom .levelMark], ",", .tab⟩, none, .tab⟩], "", .tab⟩,
      none, .twoSpaces⟩,
     .scope ⟨"", ⟨[], ";", .tab⟩, none, .tab⟩,
     .statement ⟨"b", .twoSpaces⟩]

theorem Block.render_tangled :
    AllSucceed (Block.tangled.customs 1) ∧
      Block.tangled.render 1 = .ok "  else:\n\t\t\na\n\nlevel 3\n\n  b;\n" := by
  have succeed : AllSucceed (Block.tangled.customs 1) := by
    intro entry member
    obtain rfl := List.mem_singleton.1 member
    exact ⟨_, rfl⟩
  refine ⟨succeed, ?_⟩
  rw [Block.render_eq_terminated_chunks Block.tangled 1 succeed]
  rfl

end CodeBlocks
