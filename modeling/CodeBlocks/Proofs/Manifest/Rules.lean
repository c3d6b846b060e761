/-
**The rules for manifests, as they are documented.**

`CodeBlocks.Draft.admit` asks its questions one after the other, each where it comes to it.  Here
the rules stand on their own: which names a dialect goes by, what a name of a block looks like, and
what a node has to have.  They are said by characters and by counting, without the functions that
check them, and each function is then compared with its rule.

Main definitions:

* `CodeBlocks.IsDialectName` — the names of dialects, in any mix of ASCII letter cases;
* `CodeBlocks.IsBlockName` — the names of blocks;
* `CodeBlocks.NodeDraft.IsProper` — what a node has to have, apart from the nodes inside it;
* `CodeBlocks.NodeDraft.fault?` — the first rule that a node breaks;
* `CodeBlocks.NodeDraft.Breaks` — what is said about it.

Main results:

* `CodeBlocks.isSome_ofName?_iff` — exactly the names of dialects have a preset;
* `CodeBlocks.blockNameFault?_eq_none_iff` — exactly the names of blocks pass;
* `CodeBlocks.NodeDraft.fault?_eq_none_iff` — exactly the proper nodes break no rule;
* `CodeBlocks.NodeDraft.breaks_of_fault?` — the first rule that a node breaks has the words for it.
-/
import CodeBlocks.Manifest.Admission
import Mathlib.Tactic.Common

set_option relaxedAutoImplicit false
set_option autoImplicit false

namespace CodeBlocks

/-! ### Names of dialects -/

/-- Two texts that differ in the case of ASCII letters at most. -/
def EqualUpToCase (text other : String) : Prop := text.toLower = other.toLower

/-- **The names of dialects.** -/
def IsDialectName (name : String) : Prop :=
  ∃ known ∈ ["plain", "java", "kotlin", "typescript", "ts", "go"], EqualUpToCase name known

theorem isDialectName_iff (name : String) :
    IsDialectName name ↔
      name.toLower ∈ ["plain", "java", "kotlin", "typescript", "ts", "go"] := by
  -- The names are in lower case already, so they can be compared by their lower case.
  have lower : ["plain", "java", "kotlin", "typescript", "ts", "go"].map String.toLower =
      ["plain", "java", "kotlin", "typescript", "ts", "go"] := by decide +kernel
  constructor
  · rintro ⟨known, listed, equal⟩
    rw [equal, ← lower]
    exact List.mem_map_of_mem listed
  · intro listed
    rw [← lower] at listed
    obtain ⟨known, member, equal⟩ := List.mem_map.1 listed
    exact ⟨known, member, equal.symm⟩

/-- **Exactly the names of dialects have a preset.** -/
theorem isSome_ofName?_iff (name : String) :
    (Dialect.ofName? name).isSome ↔ IsDialectName name := by
  rw [isDialectName_iff, Dialect.ofName?]
  split <;> simp_all

/-! ### Names of blocks -/

def IsLetter (c : Char) : Prop := ('a' ≤ c ∧ c ≤ 'z') ∨ ('A' ≤ c ∧ c ≤ 'Z')

def IsDigit (c : Char) : Prop := '0' ≤ c ∧ c ≤ '9'

/-- **The names of blocks**: a letter or an underscore, and then any number of letters, digits,
underscores and dashes. -/
def IsBlockName (name : String) : Prop :=
  ∃ first others, name.toList = first :: others ∧ (IsLetter first ∨ first = '_') ∧
    ∀ c ∈ others, IsLetter c ∨ IsDigit c ∨ c = '_' ∨ c = '-'

theorem isAlpha_iff (c : Char) : c.isAlpha ↔ IsLetter c := by
  unfold Char.isAlpha Char.isUpper Char.isLower
  simp [IsLetter, Char.le_def, or_comm]

theorem isDigit_iff (c : Char) : c.isDigit ↔ IsDigit c := by
  simp [Char.isDigit, IsDigit, Char.le_def]

theorem isNameStart_iff (c : Char) : isNameStart c ↔ IsLetter c ∨ c = '_' := by
  simp [isNameStart, isAlpha_iff]

theorem isNamePart_iff (c : Char) :
    isNamePart c ↔ IsLetter c ∨ IsDigit c ∨ c = '_' ∨ c = '-' := by
  simp [isNamePart, Char.isAlphanum, isAlpha_iff, isDigit_iff, or_assoc]

/-- **Exactly the names of blocks pass.** -/
theorem blockNameFault?_eq_none_iff (name : String) :
    blockNameFault? name = none ↔ IsBlockName name := by
  rw [blockNameFault?, IsBlockName]
  cases name.toList with
  | nil => simp
  | cons first others =>
      simp only [List.cons.injEq, ← isNameStart_iff, ← isNamePart_iff]
      -- A name that starts badly is refused for it, whatever follows.
      by_cases start : isNameStart first <;> by_cases parts : others.all isNamePart <;>
        simp_all

/-! ### Nodes -/

namespace NodeDraft

/-- How many of the three kinds a node is said to have. -/
def kindCount (node : NodeDraft) : Nat :=
  node.statement.toList.length + node.scope.toList.length + node.verbatim.toList.length

/-- **What a node has to have**: exactly one kind, the parts of a scope only if it is one, and a
statement on one line. -/
structure IsProper (node : NodeDraft) : Prop where
  oneKind : node.kindCount = 1
  ownParts : node.scope = none → node.close = none ∧ node.nodes = none
  oneLine : ∀ text, node.statement = some text → '\n' ∉ text.toList

/-- **The first rule that a node breaks**: first those on the number of its kinds, then the one on
the parts of a scope, then the one on lines. -/
def fault? (node : NodeDraft) : Option NodeFault :=
  if node.kindCount = 0 then some .noKind
  else if 1 < node.kindCount then some .severalKinds
  else if node.scope = none ∧ ¬ (node.close = none ∧ node.nodes = none) then some .partsOfScope
  else if ∃ text ∈ node.statement, '\n' ∈ text.toList then some .severalLines
  else none

/-- **Exactly the proper nodes break no rule.** -/
theorem fault?_eq_none_iff (node : NodeDraft) : node.fault? = none ↔ node.IsProper := by
  constructor
  · intro none
    simp only [fault?] at none
    split_ifs at none with noKind severalKinds parts lines
    refine ⟨by omega, ?_, ?_⟩
    · intro noScope
      by_contra some
      exact parts ⟨noScope, some⟩
    · intro text given broken
      exact lines ⟨text, given, broken⟩
  · rintro ⟨oneKind, ownParts, oneLine⟩
    rw [fault?, if_neg (by omega), if_neg (by omega), if_neg, if_neg]
    · rintro ⟨text, given, broken⟩
      exact oneLine text given broken
    · rintro ⟨noScope, some⟩
      exact some (ownParts noScope)

/-- **What is said about a node that breaks a rule.**  The number of its kinds comes first, then the
parts of a scope, then the lines. -/
inductive Breaks (node : NodeDraft) : String → Prop
  | noKind : node.kindCount = 0 →
      Breaks node "node has no 'statement', 'scope' or 'verbatim' key"
  | severalKinds : 1 < node.kindCount →
      Breaks node "node has more than one of 'statement', 'scope' and 'verbatim'"
  | partsOfScope : node.kindCount = 1 → node.scope = none →
      ¬ (node.close = none ∧ node.nodes = none) →
      Breaks node "'close' and 'nodes' are only allowed on scopes"
  | severalLines (text : String) : node.kindCount = 1 →
      (node.scope = none → node.close = none ∧ node.nodes = none) →
      node.statement = some text → '\n' ∈ text.toList →
      Breaks node "statements must be a single line; use 'verbatim' for multi-line text"

/-- **The first rule that a node breaks has the words for it.** -/
theorem breaks_of_fault? {node : NodeDraft} {rule : NodeFault} (broken : node.fault? = some rule) :
    node.Breaks rule.words := by
  simp only [fault?] at broken
  split_ifs at broken with none several parts lines
  · obtain rfl := Option.some.inj broken
    exact .noKind none
  · obtain rfl := Option.some.inj broken
    exact .severalKinds several
  · obtain rfl := Option.some.inj broken
    exact .partsOfScope (by omega) parts.1 parts.2
  · obtain rfl := Option.some.inj broken
    obtain ⟨text, given, broken⟩ := lines
    refine .severalLines text (by omega) ?_ given broken
    intro noScope
    by_contra some
    exact parts ⟨noScope, some⟩

end NodeDraft

end CodeBlocks
