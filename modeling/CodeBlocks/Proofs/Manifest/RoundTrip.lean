/-
**Decoding undoes encoding.**

A manifest that stands in a document comes back from it: the draft of the document says what the
manifest says, a draft says what one manifest says at most, and if the manifest keeps the rules, so
does the draft.

Main definitions:

* `CodeBlocks.NodeSpec.statementTexts` — the texts of the statements at all depths;
* `CodeBlocks.Manifest.IsRegular` — the manifests that can be written.

Main results:

* `CodeBlocks.Draft.Describes.isWellFormed` — a draft keeps the rules if the manifest does;
* `CodeBlocks.Draft.Describes.unique` — **a draft says what one manifest says at most**;
* `CodeBlocks.Manifest.admit_of_isWrittenAs` — **decoding undoes encoding**.
-/
import CodeBlocks.Manifest.Reading
import CodeBlocks.Proofs.Manifest.Decoding

set_option relaxedAutoImplicit false
set_option autoImplicit false

namespace CodeBlocks

open Toml (Entry Fills Item Table)

/-! ### Rules -/

mutual

def NodeSpec.statementTexts : NodeSpec → List String
  | .statement text => [text]
  | .verbatim _ => []
  | .scope _ _ nodes => NodeSpec.allStatementTexts nodes

def NodeSpec.allStatementTexts : List NodeSpec → List String
  | [] => []
  | node :: nodes => node.statementTexts ++ NodeSpec.allStatementTexts nodes

end

/-- **The manifests that can be written**: the settings can be, the names of the blocks are proper
ones, and every statement stands on one line. -/
structure Manifest.IsRegular (manifest : Manifest) : Prop where
  settings : manifest.settings.IsRegular
  names : ∀ name ∈ manifest.blockNames, IsBlockName name
  statements : ∀ block ∈ manifest.blocks.entries,
    ∀ text ∈ NodeSpec.allStatementTexts block.2.nodes, '\n' ∉ text.toList

theorem NodeSpec.mem_allStatementTexts {node : NodeSpec} {nodes : List NodeSpec}
    (member : node ∈ nodes) {text : String} (among : text ∈ node.statementTexts) :
    text ∈ NodeSpec.allStatementTexts nodes := by
  induction nodes with
  | nil => cases member
  | cons first others ih =>
      rw [NodeSpec.allStatementTexts, List.mem_append]
      rcases List.mem_cons.1 member with rfl | later
      · exact Or.inl among
      · exact Or.inr (ih later)

theorem NodeDraft.DescribesAll.exists_of_mem {nodes : List NodeDraft} {specs : List NodeSpec}
    (all : NodeDraft.DescribesAll nodes specs) {node : NodeDraft} (member : node ∈ nodes) :
    ∃ spec ∈ specs, node.Describes spec := by
  induction nodes generalizing specs with
  | nil => cases member
  | cons first others ih =>
      obtain _ | ⟨described, rest⟩ := all
      rcases List.mem_cons.1 member with rfl | later
      · exact ⟨_, List.mem_cons_self, described⟩
      · obtain ⟨spec, among, holds⟩ := ih rest later
        exact ⟨spec, List.mem_cons_of_mem _ among, holds⟩

/-- A draft that says what a node says is proper, if the statements stand on one line. -/
theorem NodeDraft.Describes.isProper {node : NodeDraft} {spec : NodeSpec}
    (described : node.Describes spec) (lines : ∀ text ∈ spec.statementTexts, '\n' ∉ text.toList) :
    node.IsProper := by
  cases described with
  | statement text =>
      refine ⟨rfl, fun _ => ⟨rfl, rfl⟩, ?_⟩
      rintro _ ⟨⟩
      exact lines text (by simp [NodeSpec.statementTexts])
  | verbatim text => exact ⟨rfl, fun _ => ⟨rfl, rfl⟩, nofun⟩
  | scope header close nodes specs all => exact ⟨rfl, nofun, nofun⟩

/-- What is inside a node that is described is described too. -/
theorem NodeDraft.Describes.exists_inner {node : NodeDraft} {spec : NodeSpec}
    (described : node.Describes spec) : ∃ specs, NodeDraft.DescribesAll node.inner specs ∧
      ∀ text ∈ NodeSpec.allStatementTexts specs, text ∈ spec.statementTexts := by
  cases described with
  | statement text => exact ⟨[], .nil, nofun⟩
  | verbatim text => exact ⟨[], .nil, nofun⟩
  | scope header close nodes specs all =>
      refine ⟨specs, ?_, fun text among => among⟩
      cases nodes <;> exact all

/-- The same for every node that a path leads to. -/
theorem NodeDraft.DescribesAll.isProper {path : NodePath} {nodes : List NodeDraft}
    {specs : List NodeSpec} (all : NodeDraft.DescribesAll nodes specs)
    (lines : ∀ text ∈ NodeSpec.allStatementTexts specs, '\n' ∉ text.toList) {found : NodeDraft}
    (leads : nodeAt? nodes path = some found) : found.IsProper := by
  fun_induction nodeAt? nodes path generalizing specs with
  | case1 nodes => cases leads
  | case2 nodes position =>
      obtain ⟨spec, among, described⟩ := all.exists_of_mem (List.mem_of_getElem? leads)
      exact described.isProper fun text own => lines text (NodeSpec.mem_allStatementTexts among own)
  | case3 nodes position next rest ih =>
      obtain ⟨node, here, leads⟩ := Option.bind_eq_some_iff.1 leads
      obtain ⟨spec, among, described⟩ := all.exists_of_mem (List.mem_of_getElem? here)
      obtain ⟨inner, within, texts⟩ := described.exists_inner
      exact ih node within
        (fun text own => lines text (NodeSpec.mem_allStatementTexts among (texts text own))) leads

theorem EntriesDescribe.exists_of_mem {entries : List (String × BlockDraft)}
    {blocks : List (String × BlockSpec)} (all : EntriesDescribe entries blocks)
    {entry : String × BlockDraft} (member : entry ∈ entries) :
    ∃ block ∈ blocks, block.1 = entry.1 ∧ entry.2.Describes block.2 := by
  unfold EntriesDescribe at all
  induction all with
  | nil => cases member
  | cons first others ih =>
      rcases List.mem_cons.1 member with rfl | later
      · exact ⟨_, List.mem_cons_self, first⟩
      · obtain ⟨block, among, holds⟩ := ih later
        exact ⟨block, List.mem_cons_of_mem _ among, holds⟩

/-- A draft that says what a regular manifest says keeps every rule. -/
theorem Draft.Describes.isWellFormed {draft : Draft} {manifest : Manifest}
    (described : draft.Describes manifest) (regular : manifest.IsRegular) : draft.IsWellFormed where
  dialect := by
    intro name given
    exact regular.settings.dialect name (by rw [described.1, given])
  blocks := by
    intro entry member
    obtain ⟨block, among, same, _, nodes⟩ := described.2.exists_of_mem member
    refine ⟨?_, fun path node leads => nodes.isProper (regular.statements block among) leads⟩
    rw [← same]
    exact regular.names block.1 (List.mem_map_of_mem among)

/-! ### Uniqueness -/

mutual

/-- A draft says what one node says at most. -/
theorem NodeDraft.Describes.unique : ∀ {spec other : NodeSpec} {node : NodeDraft},
    node.Describes spec → node.Describes other → spec = other
  | .statement _, _, _, .statement _, .statement _ => rfl
  | .verbatim _, _, _, .verbatim _, .verbatim _ => rfl
  | .scope _ _ _, _, _, .scope header close _ _ all, .scope _ _ _ _ others => by
      rw [NodeDraft.DescribesAll.unique all others]

theorem NodeDraft.DescribesAll.unique : ∀ {specs others : List NodeSpec} {nodes : List NodeDraft},
    NodeDraft.DescribesAll nodes specs → NodeDraft.DescribesAll nodes others → specs = others
  | [], _, _, .nil, .nil => rfl
  | _ :: _, _, _, .cons first rest, .cons other others => by
      rw [first.unique other, rest.unique others]

end

/-- A draft says what one manifest says at most. -/
theorem Draft.Describes.unique {draft : Draft} {manifest other : Manifest}
    (first : draft.Describes manifest) (second : draft.Describes other) : manifest = other := by
  have blocks : manifest.blocks.entries = other.blocks.entries := by
    refine List.right_unique_forall₂' ?_ first.2 second.2
    rintro entry ⟨name, description, nodes⟩ ⟨name', description', nodes'⟩
      ⟨same, sameDescription, all⟩ ⟨same', sameDescription', all'⟩
    obtain rfl : name = name' := same.trans same'.symm
    obtain rfl : description = description' := sameDescription.trans sameDescription'.symm
    obtain rfl : nodes = nodes' := all.unique all'
    rfl
  obtain ⟨settings, entries, nodup⟩ := manifest
  obtain ⟨settings', entries', nodup'⟩ := other
  obtain rfl : entries = entries' := blocks
  obtain rfl : settings = settings' := first.1.trans second.1.symm
  rfl

/-- **A draft that says what a regular manifest says is admitted as it.** -/
theorem Draft.Describes.admit {draft : Draft} {manifest : Manifest}
    (described : draft.Describes manifest) (regular : manifest.IsRegular) (source : String) :
    draft.admit source = .ok manifest := by
  have decided := draft.admit_decided source
  rw [(Draft.complaint?_eq_none_iff source draft).2 (described.isWellFormed regular)] at decided
  obtain ⟨other, admitted, also⟩ := decided
  rw [admitted, described.unique also]

/-- **Decoding undoes encoding.**  There is a document for every regular manifest, and every
document that the manifest stands in is read into a draft that is admitted as the manifest. -/
theorem Manifest.admit_of_isWrittenAs (manifest : Manifest) (regular : manifest.IsRegular) :
    (∃ table, manifest.IsWrittenAs table) ∧
      ∀ table, manifest.IsWrittenAs table →
        (∃ draft, Draft.ofTable table = .ok draft ∧
          ∀ source, draft.admit source = .ok manifest) ∧
        ∀ text, Table.ofText text = .ok table → Manifest.parse text = .ok manifest := by
  refine ⟨⟨_, manifest.isWrittenAs_toTable⟩, ?_⟩
  intro table written
  obtain ⟨draft, read, described⟩ := Draft.describes_of_isWrittenAs regular.settings written
  refine ⟨⟨draft, read, described.admit regular⟩, ?_⟩
  intro text parsed
  have drafted : Manifest.parse text =
      ((Draft.ofTable table).mapError .badFields >>= fun draft => draft.admit text) := by
    rw [Manifest.parse, parsed]
    rfl
  rw [drafted, read]
  exact described.admit regular text

/-- Settings at the lowest level, a block with a scope in a scope, and a block without nodes. -/
def Manifest.nested : Manifest where
  settings := { dialect := some "Java", indent := some (.spaces 2) }
  blocks :=
    (Catalog.empty.insert "outer"
      { description := some "two scopes"
        nodes := [.scope "if" (some "end") [.statement "x()", .scope "else" none []]] }).insert
      "rest" {}

/-- A document for it, with the settings at the end and without all that is empty. -/
def Manifest.nestedTable : Table where
  form := .headed
  entries :=
    [.of "blocks" (.ofEntries
      [.of "outer" (.ofEntries
        [.of "description" (.ofText "two scopes"),
         .of "nodes" (.ofItems
          [.ofEntries
            [.of "scope" (.ofText "if"),
             .of "close" (.ofText "end"),
             .of "nodes" (.ofItems
              [.ofEntries [.of "statement" (.ofText "x()")],
               .ofEntries [.of "scope" (.ofText "else")]])]])]),
       .of "rest" (.ofEntries [])]),
     .of "settings" (.ofEntries
      [.of "dialect" (.ofText "Java"), .of "indent" (.ofInteger 2)])]

theorem Manifest.isRegular_nested : Manifest.nested.IsRegular where
  settings := by
    refine ⟨?_, ?_, by decide⟩
    · rintro _ ⟨⟩
      exact (isSome_ofName?_iff _).1 (by decide +kernel)
    · rintro _ ⟨⟩
      decide
  names := by
    have proper : ∀ name ∈ Manifest.nested.blockNames, blockNameFault? name = none := by
      decide +kernel
    exact fun name member => (blockNameFault?_eq_none_iff name).1 (proper name member)
  statements := by decide +kernel

theorem Manifest.isWrittenAs_nestedTable : Manifest.nested.IsWrittenAs Manifest.nestedTable := by
  refine Fills.perm (Fills.cons_of (Item.isTableOf_ofEntries ?settings) <|
    Fills.cons_of (Item.isTableOf_ofEntries ?blocks) Fills.nil) (List.Perm.swap _ _ _)
  case settings =>
    exact Fills.cons_of ⟨_, rfl, Item.isText_ofText _⟩ <| Fills.cons_absent rfl <|
      Fills.cons_of ⟨_, rfl, ⟨_, rfl⟩⟩ <| Fills.cons_absent rfl Fills.nil
  case blocks =>
    refine .cons ⟨rfl, Item.isTableOf_ofEntries ?outer⟩ <|
      .cons ⟨rfl, Item.isTableOf_ofEntries ?rest⟩ .nil
    case outer =>
      refine Fills.cons_of ⟨_, rfl, Item.isText_ofText _⟩ <|
        Fills.cons_of (Item.isArrayOf_ofItems ⟨Item.isTableOf_ofEntries ?scope, trivial⟩) Fills.nil
      refine Fills.cons_of (Item.isText_ofText _) <| Fills.cons_of ⟨_, rfl, Item.isText_ofText _⟩ <|
        Fills.cons_of (Item.isArrayOf_ofItems ⟨Item.isTableOf_ofEntries ?statement,
          Item.isTableOf_ofEntries ?empty, trivial⟩) Fills.nil
      case statement => exact Fills.cons_of (Item.isText_ofText _) Fills.nil
      case empty =>
        exact Fills.cons_of (Item.isText_ofText _) <| Fills.cons_absent rfl <|
          Fills.cons_absent rfl Fills.nil
    case rest => exact Fills.cons_absent rfl <| Fills.cons_absent rfl Fills.nil

theorem Manifest.admit_nested :
    ∃ draft, Draft.ofTable Manifest.nestedTable = .ok draft ∧
      draft.admit "" = .ok Manifest.nested := by
  obtain ⟨_, each⟩ := Manifest.admit_of_isWrittenAs Manifest.nested Manifest.isRegular_nested
  obtain ⟨⟨draft, read, admitted⟩, _⟩ := each _ Manifest.isWrittenAs_nestedTable
  exact ⟨draft, read, admitted ""⟩

end CodeBlocks
