/-
**What the admission of drafts decides.**

A draft is admitted if it keeps every rule, and what comes out has all that went in.  One that
breaks a rule is refused for the first offender: the dialect before all blocks, an earlier block
before a later one, the name of a block before its nodes, and a node before the nodes inside it and
behind it.

What a draft comes to is *decided* by a complaint, in the sense of `CodeBlocks.Decided`: of its
parts each has its own, and the first of them counts.

Main definitions:

* `CodeBlocks.NodeDraft.Describes`, `CodeBlocks.Draft.Describes` — a manifest has what a draft says,
  node by node and block by block;
* `CodeBlocks.Draft.IsWellFormed` — the rules for whole drafts;
* `CodeBlocks.NodeOffence`, `CodeBlocks.Draft.FirstOffender` — what a refusal says, and of what.

Main results:

* `CodeBlocks.NodeDraft.admitFrom_decided`, `CodeBlocks.Draft.admit_decided` — the first node, and
  the first part of a draft, that breaks a rule decides;
* `CodeBlocks.Draft.admit_ok_iff_isWellFormed` — **a draft is admitted exactly if it keeps every
  rule, and nothing is lost**;
* `CodeBlocks.Draft.admit_error_first_offender` — **a draft is refused for its first offender**.
-/
import CodeBlocks.Proofs.Manifest.Positions
import CodeBlocks.Proofs.Outcome

set_option relaxedAutoImplicit false
set_option autoImplicit false

namespace CodeBlocks

/-! ### What a draft says -/

mutual

/-- **A described node has what a draft says**: the same kind with the same texts, and the same
nodes inside.  A scope may leave its nodes out if there are none. -/
inductive NodeDraft.Describes : NodeDraft → NodeSpec → Prop
  | statement (text : String) :
      NodeDraft.Describes { statement := some text } (.statement text)
  | verbatim (text : String) :
      NodeDraft.Describes { verbatim := some text } (.verbatim text)
  | scope (header : String) (close : Option String) (nodes : Option (List NodeDraft))
      (specs : List NodeSpec) : NodeDraft.DescribesAll (nodes.getD []) specs →
      NodeDraft.Describes { scope := some header, close, nodes } (.scope header close specs)

/-- The same for several nodes, one for one and in order. -/
inductive NodeDraft.DescribesAll : List NodeDraft → List NodeSpec → Prop
  | nil : NodeDraft.DescribesAll [] []
  | cons {node : NodeDraft} {nodes : List NodeDraft} {spec : NodeSpec} {specs : List NodeSpec} :
      NodeDraft.Describes node spec → NodeDraft.DescribesAll nodes specs →
      NodeDraft.DescribesAll (node :: nodes) (spec :: specs)

end

/-! ### Nodes -/

@[simp] theorem NodeDraft.visitsWithin_of_no_scope (statement verbatim close : Option String)
    (nodes : Option (List NodeDraft)) :
    NodeDraft.visitsWithin ⟨statement, none, verbatim, close, nodes⟩ = [] := by
  cases nodes <;> rfl

/-- A node that breaks a rule itself is refused for it, whatever is inside. -/
theorem Decided.own (rule : NodeFault) {outcome : Except NodeRefusal NodeSpec} {node : NodeDraft}
    {path : NodePath} {others : Option NodeRefusal} {right : NodeSpec → Prop}
    (broken : node.fault? = some rule) (refused : outcome = .error (path, rule)) :
    Decided ((node.fault?.map fun rule => (path, rule)).or others) right outcome := by
  rw [broken]
  exact refused

/-- A node that breaks no rule itself is decided by what is inside. -/
theorem Decided.inside {outcome : Except NodeRefusal NodeSpec} {node : NodeDraft} {path : NodePath}
    {others : Option NodeRefusal} {right : NodeSpec → Prop} (proper : node.fault? = none)
    (decided : Decided others right outcome) :
    Decided ((node.fault?.map fun rule => (path, rule)).or others) right outcome := by
  rw [proper]
  exact decided

mutual

/-- **A node is decided** by its own fault, and else by the first one inside it. -/
theorem NodeDraft.admit_decided (path : NodePath) :
    ∀ node : NodeDraft,
      Decided ((node.fault?.map fun rule => (path, rule)).or
          (node.visitsWithin.findSome? (Visit.refusal? path))) node.Describes <|
        node.admit path
  -- The three nodes of one kind come first, and then those of none and of several.
  | ⟨some text, none, none, close, nodes⟩ => by
      unfold NodeDraft.admit leafSpec statementSpec
      by_cases parts : close = none ∧ nodes = none
      · obtain ⟨rfl, rfl⟩ := parts
        by_cases lines : '\n' ∈ text.toList
        · refine Decided.own .severalLines ?_ (by simp [lines])
          simp [NodeDraft.fault?, NodeDraft.kindCount, lines]
        · refine Decided.inside (by simp [NodeDraft.fault?, NodeDraft.kindCount, lines]) ?_
          simpa [lines] using Decided.ok (NodeDraft.Describes.statement text)
      · refine Decided.own .partsOfScope ?_ ?_
        · simp [NodeDraft.fault?, NodeDraft.kindCount, parts]
        · cases close <;> cases nodes <;> simp_all
  | ⟨none, none, some text, close, nodes⟩ => by
      unfold NodeDraft.admit leafSpec
      by_cases parts : close = none ∧ nodes = none
      · obtain ⟨rfl, rfl⟩ := parts
        refine Decided.inside (by simp [NodeDraft.fault?, NodeDraft.kindCount]) ?_
        simpa using Decided.ok (NodeDraft.Describes.verbatim text)
      · refine Decided.own .partsOfScope ?_ ?_
        · simp [NodeDraft.fault?, NodeDraft.kindCount, parts]
        · cases close <;> cases nodes <;> simp_all
  | ⟨none, some header, none, close, none⟩ => by
      unfold NodeDraft.admit
      refine Decided.inside (by simp [NodeDraft.fault?, NodeDraft.kindCount]) ?_
      exact Decided.ok (NodeDraft.Describes.scope header close none [] .nil)
  | ⟨none, some header, none, close, some nodes⟩ => by
      have inner := NodeDraft.admitFrom_decided path 0 nodes
      unfold NodeDraft.admit
      refine Decided.inside (by simp [NodeDraft.fault?, NodeDraft.kindCount]) ?_
      exact inner.map fun specs all => NodeDraft.Describes.scope header close (some nodes) specs all
  | ⟨none, none, none, close, nodes⟩ => by
      exact Decided.own .noKind rfl rfl
  | ⟨some statement, some header, verbatim, close, nodes⟩ => by
      unfold NodeDraft.admit
      refine Decided.own .severalKinds ?_ (by simp)
      cases verbatim <;> simp [NodeDraft.fault?, NodeDraft.kindCount]
  | ⟨some statement, none, some text, close, nodes⟩ => by
      unfold NodeDraft.admit
      refine Decided.own .severalKinds ?_ (by simp)
      simp [NodeDraft.fault?, NodeDraft.kindCount]
  | ⟨none, some header, some text, close, nodes⟩ => by
      unfold NodeDraft.admit
      refine Decided.own .severalKinds ?_ (by simp)
      simp [NodeDraft.fault?, NodeDraft.kindCount]

/-- **Nodes are decided** by the first one that breaks a rule, in the order of the document. -/
theorem NodeDraft.admitFrom_decided (path : NodePath) (position : Nat) :
    ∀ nodes : List NodeDraft,
      Decided ((visitsFrom position nodes).findSome? (Visit.refusal? path))
        (NodeDraft.DescribesAll nodes) (NodeDraft.admitFrom path position nodes)
  | [] => Decided.ok NodeDraft.DescribesAll.nil
  | node :: nodes => by
      have first := NodeDraft.admit_decided (path ++ [position]) node
      have others := NodeDraft.admitFrom_decided path (position + 1) nodes
      -- Inside of the node, all paths go on from the one that leads to it.
      have inside : (node.visitsWithin.map (Visit.below position)).findSome?
          (Visit.refusal? path) =
          node.visitsWithin.findSome? (Visit.refusal? (path ++ [position])) := by
        rw [List.findSome?_map]
        congr 1
        funext visit
        simp [Visit.refusal?, Visit.below]
      have order : (visitsFrom position (node :: nodes)).findSome? (Visit.refusal? path) =
          ((node.fault?.map fun rule => (path ++ [position], rule)).or
            (node.visitsWithin.findSome? (Visit.refusal? (path ++ [position])))).or
            ((visitsFrom (position + 1) nodes).findSome? (Visit.refusal? path)) := by
        rw [visitsFrom, List.findSome?_append, List.findSome?_cons, inside, Visit.refusal?]
        cases node.fault? <;> rfl
      rw [NodeDraft.admitFrom, order]
      exact first.bind fun spec described =>
        others.map fun specs all => NodeDraft.DescribesAll.cons described all

end

/-! ### Blocks -/

/-- A block is proper if its name is one, and if every node under it is. -/
def BlockDraft.IsProper (name : String) (draft : BlockDraft) : Prop :=
  IsBlockName name ∧ ∀ path node, nodeAt? draft.nodes path = some node → node.IsProper

/-- **What is wrong with a block**: its name, or else its first node that breaks a rule. -/
def BlockDraft.complaint? (source name : String) (draft : BlockDraft) : Option ManifestFault :=
  ((blockNameFault? name).map fun rule =>
      .invalidName name rule (blockNameSpan? source name)).or
    (((visits draft.nodes).findSome? (Visit.refusal? [])).map fun refusal =>
      .invalidNode name refusal.1 refusal.2 (blockNameSpan? source name))

theorem BlockDraft.complaint?_eq_none_iff (source name : String) (draft : BlockDraft) :
    draft.complaint? source name = none ↔ draft.IsProper name := by
  rw [BlockDraft.complaint?, Option.or_eq_none_iff, Option.map_eq_none_iff,
    Option.map_eq_none_iff, blockNameFault?_eq_none_iff, findSome?_eq_none_iff_proper]
  rfl

/-- A block without a proper name is refused for it, whatever its nodes. -/
theorem BlockDraft.invalidName_of_complaint? {source name : String} {draft : BlockDraft}
    {fault : ManifestFault} (complained : draft.complaint? source name = some fault)
    (noName : ¬ IsBlockName name) : ∃ rule span, fault = .invalidName name rule span := by
  rw [BlockDraft.complaint?] at complained
  cases broken : blockNameFault? name with
  | none => exact absurd ((blockNameFault?_eq_none_iff name).1 broken) noName
  | some rule =>
      rw [broken] at complained
      exact ⟨rule, _, (Option.some.inj complained).symm⟩

/-- A block with a proper name is refused for its first node that breaks a rule. -/
theorem BlockDraft.invalidNode_of_complaint? {source name : String} {draft : BlockDraft}
    {fault : ManifestFault} (complained : draft.complaint? source name = some fault)
    (isName : IsBlockName name) :
    ∃ path rule span, fault = .invalidNode name path rule span ∧
      FirstFault draft.nodes path rule := by
  rw [BlockDraft.complaint?, (blockNameFault?_eq_none_iff name).2 isName, Option.map_none,
    Option.none_or] at complained
  obtain ⟨⟨path, rule⟩, first, rfl⟩ := Option.map_eq_some_iff.1 complained
  exact ⟨path, rule, _, rfl, firstFault_of_findSome? first⟩

def BlockDraft.Describes (draft : BlockDraft) (spec : BlockSpec) : Prop :=
  spec.description = draft.description ∧ NodeDraft.DescribesAll draft.nodes spec.nodes

/-- **A block is decided** by what is wrong with it. -/
theorem BlockDraft.admit_decided (source name : String) (draft : BlockDraft) :
    Decided (draft.complaint? source name) draft.Describes <| draft.admit source name := by
  have nodes := NodeDraft.admitFrom_decided [] 0 draft.nodes
  unfold BlockDraft.admit BlockDraft.complaint?
  cases blockNameFault? name with
  | some rule => exact Decided.error _ _
  | none =>
      rw [visits]
      cases first : (visitsFrom 0 draft.nodes).findSome? (Visit.refusal? []) with
      | some refusal =>
          rw [first] at nodes
          have refused : NodeDraft.admitFrom [] 0 draft.nodes = .error refusal := nodes
          rw [refused]
          exact Decided.error _ _
      | none =>
          rw [first] at nodes
          obtain ⟨specs, admitted, described⟩ := nodes
          rw [admitted]
          exact Decided.ok ⟨rfl, described⟩

/-- Entries with the same names, whose blocks are described. -/
def EntriesDescribe (entries : List (String × BlockDraft)) (specs : List (String × BlockSpec)) :
    Prop :=
  List.Forall₂ (fun entry spec => spec.1 = entry.1 ∧ entry.2.Describes spec.2) entries specs

/-- **Blocks are decided** by the first one with which something is wrong.  What is described goes
behind what is there. -/
theorem admitBlocks_decided (source : String) (entries : List (String × BlockDraft))
    (catalog : Catalog BlockSpec) (fresh : ∀ entry ∈ entries, entry.1 ∉ catalog.names)
    (nodup : (entries.map Prod.fst).Nodup) :
    Decided (entries.findSome? fun entry => entry.2.complaint? source entry.1)
      (fun result => ∃ specs, EntriesDescribe entries specs ∧
        result.entries = catalog.entries ++ specs)
      (admitBlocks source entries catalog) := by
  induction entries generalizing catalog with
  | nil => exact Decided.ok ⟨[], List.Forall₂.nil, by simp⟩
  | cons entry entries ih =>
      obtain ⟨name, draft⟩ := entry
      have first := draft.admit_decided source name
      obtain ⟨new, nodup⟩ := List.nodup_cons.1 nodup
      have later : ∀ spec, draft.Describes spec →
          Decided (entries.findSome? fun entry => entry.2.complaint? source entry.1)
            (fun result => ∃ specs, EntriesDescribe ((name, draft) :: entries) specs ∧
              result.entries = catalog.entries ++ specs)
            (admitBlocks source entries (catalog.insert name spec)) := by
        intro spec described
        -- The name is new, so the block goes behind the others.
        have absent : name ∉ catalog.names := fresh (name, draft) (List.mem_cons_self ..)
        have stillFresh : ∀ entry ∈ entries, entry.1 ∉ (catalog.insert name spec).names := by
          intro entry member
          refine Catalog.not_mem_names_insert spec (fresh entry (List.mem_cons_of_mem _ member)) ?_
          exact fun same => new (List.mem_map.2 ⟨entry, member, same⟩)
        refine (ih (catalog.insert name spec) stillFresh nodup).imp ?_
        rintro result ⟨specs, all, equal⟩
        refine ⟨(name, spec) :: specs, List.Forall₂.cons ⟨rfl, described⟩ all, ?_⟩
        rw [equal, Catalog.entries_insert_of_not_mem _ _ absent, List.append_assoc]
        rfl
      have order : ((name, draft) :: entries).findSome?
          (fun entry => entry.2.complaint? source entry.1) =
          (draft.complaint? source name).or
            (entries.findSome? fun entry => entry.2.complaint? source entry.1) := by
        rw [List.findSome?_cons]
        cases draft.complaint? source name <;> rfl
      rw [admitBlocks, order]
      exact first.bind later

/-! ### Whole drafts -/

/-- **The rules for whole drafts**: a dialect that is given is known, and every block is proper. -/
structure Draft.IsWellFormed (draft : Draft) : Prop where
  dialect : ∀ name, draft.settings.dialect = some name → IsDialectName name
  blocks : ∀ entry ∈ draft.blocks.entries, BlockDraft.IsProper entry.1 entry.2

/-- **A manifest has what a draft says**: the settings, and the blocks under their names and in
their order. -/
def Draft.Describes (draft : Draft) (manifest : Manifest) : Prop :=
  manifest.settings = draft.settings ∧
    EntriesDescribe draft.blocks.entries manifest.blocks.entries

/-- **What is wrong with a draft**: its dialect, or else the first block with which something is. -/
def Draft.complaint? (source : String) (draft : Draft) : Option ManifestFault :=
  (draft.settings.dialectFault? source).or
    (draft.blocks.entries.findSome? fun entry => entry.2.complaint? source entry.1)

theorem Settings.dialectFault?_eq_none_iff (source : String) (settings : Settings) :
    settings.dialectFault? source = none ↔
      ∀ name, settings.dialect = some name → IsDialectName name := by
  rw [Settings.dialectFault?]
  cases settings.dialect with
  | none => simp
  | some name => simp [isSome_ofName?_iff]

theorem Draft.complaint?_eq_none_iff (source : String) (draft : Draft) :
    draft.complaint? source = none ↔ draft.IsWellFormed := by
  rw [Draft.complaint?, Option.or_eq_none_iff, Settings.dialectFault?_eq_none_iff,
    List.findSome?_eq_none_iff]
  simp only [BlockDraft.complaint?_eq_none_iff]
  exact ⟨fun both => ⟨both.1, both.2⟩, fun rules => ⟨rules.dialect, rules.blocks⟩⟩

/-- **A draft is decided** by what is wrong with it. -/
theorem Draft.admit_decided (source : String) (draft : Draft) :
    Decided (draft.complaint? source) draft.Describes <| draft.admit source := by
  have blocks := admitBlocks_decided source draft.blocks.entries .empty (by simp [Catalog.names,
    Catalog.empty]) draft.blocks.nodup
  unfold Draft.admit Draft.complaint?
  cases draft.settings.dialectFault? source with
  | some fault => exact Decided.error _ _
  | none =>
      refine blocks.map ?_
      rintro result ⟨specs, all, equal⟩
      refine ⟨rfl, ?_⟩
      rw [equal]
      exact all

/-! ### What settings stand for -/

/-- A dialect that is known is taken, with the overrides. -/
theorem Settings.resolved_eq {settings : Settings} {preset : Dialect}
    (found : settings.dialect.bind Dialect.ofName? = some preset) :
    settings.resolved =
      ⟨preset.name, settings.separator.getD preset.separator,
        settings.indent.getD preset.indent⟩ := by
  obtain ⟨dialect, separator, indent, baseIndent⟩ := settings
  rw [Settings.resolved, found]
  cases separator <;> cases indent <;> rfl

/-- **A draft is admitted exactly if it keeps every rule, and nothing is lost**: the manifest has
all that the draft says, and a dialect that is given is the one that its settings stand for. -/
theorem Draft.admit_ok_iff_isWellFormed (source : String) (draft : Draft) :
    ((∃ manifest, draft.admit source = .ok manifest) ↔ draft.IsWellFormed) ∧
      ∀ manifest, draft.admit source = .ok manifest →
        draft.Describes manifest ∧
          ∀ name, manifest.settings.dialect = some name →
            ∃ preset, Dialect.ofName? name = some preset ∧
              manifest.settings.resolved =
                ⟨preset.name, manifest.settings.separator.getD preset.separator,
                  manifest.settings.indent.getD preset.indent⟩ := by
  have decided := draft.admit_decided source
  refine ⟨decided.ok_iff.trans (Draft.complaint?_eq_none_iff source draft), ?_⟩
  intro manifest admitted
  have described := decided.right_of_ok admitted
  refine ⟨described, ?_⟩
  intro name given
  have rules := (Draft.complaint?_eq_none_iff source draft).1 (decided.ok_iff.1 ⟨_, admitted⟩)
  have known := rules.dialect name (by rw [← described.1, given])
  obtain ⟨preset, found⟩ := Option.isSome_iff_exists.1 ((isSome_ofName?_iff name).2 known)
  exact ⟨preset, found, Settings.resolved_eq (by rw [given]; exact found)⟩

/-- A draft with a dialect in mixed case, a block without nodes, and a scope without a header. -/
def Draft.orderly : Draft where
  settings := { dialect := some "TypeScript", separator := some "," }
  blocks := (Catalog.empty.insert "zeta-1" { description := some "last" }).insert "_a"
    { nodes :=
        [{ scope := some "if"
           close := some ""
           nodes := some [{ scope := some "" }, { verbatim := some "x\ny" }] }] }

theorem Draft.admit_orderly :
    ∃ manifest, Draft.orderly.admit "" = .ok manifest ∧ Draft.orderly.Describes manifest := by
  obtain ⟨accepted, kept⟩ := Draft.admit_ok_iff_isWellFormed "" Draft.orderly
  have proper : Draft.orderly.complaint? "" = none := by decide +kernel
  obtain ⟨manifest, admitted⟩ := accepted.2 ((Draft.complaint?_eq_none_iff "" _).1 proper)
  exact ⟨manifest, admitted, (kept manifest admitted).1⟩

/-- **What a fault of a node says**, in a block with a name: the way to the first node that breaks a
rule, and the words for the first rule that it breaks. -/
structure NodeOffence (name : String) (nodes : List NodeDraft) (path : NodePath) (rule : NodeFault)
    (fault : ManifestFault) : Prop where
  first : FirstFault nodes path rule
  broken : ∃ node, nodeAt? nodes path = some node ∧ node.Breaks rule.words
  way : path.words = ".".intercalate (path.map fun position => "nodes[" ++ position.repr ++ "]")
  message : fault.message =
    "invalid node " ++ path.words ++ " in block '" ++ name ++ "': " ++ rule.words

/-- **A fault is that of the first offender of a draft.**  The dialect comes before all blocks,
whatever they hold.  Of the blocks the first that is not proper counts, and its name before its
nodes.  Of the nodes the first in the order of the document counts, and of the rules the first that
it breaks. -/
structure Draft.FirstOffender (draft : Draft) (fault : ManifestFault) : Prop where
  dialect : ∀ name, draft.settings.dialect = some name → ¬ IsDialectName name →
    ∃ span, fault = .unknownDialect name span
  block : (∀ name, draft.settings.dialect = some name → IsDialectName name) →
    ∃ before name block after, draft.blocks.entries = before ++ (name, block) :: after ∧
      (∀ entry ∈ before, BlockDraft.IsProper entry.1 entry.2) ∧
      (¬ IsBlockName name → ∃ rule span, fault = .invalidName name rule span) ∧
      (IsBlockName name → ∃ path rule span, fault = .invalidNode name path rule span ∧
        NodeOffence name block.nodes path rule fault)

/-- What is said about a block for its first node that breaks a rule. -/
theorem nodeOffence_of_first {name : String} {nodes : List NodeDraft} {path : NodePath}
    {rule : NodeFault} (span : Option Text.Span) (first : FirstFault nodes path rule) :
    NodeOffence name nodes path rule (.invalidNode name path rule span) := by
  have ⟨node, leads, broken, _⟩ := first
  exact ⟨first, ⟨node, leads, NodeDraft.breaks_of_fault? broken⟩, path.words_eq, rfl⟩

/-- **A draft is refused for its first offender**, and no two nodes have the same path in words. -/
theorem Draft.admit_error_first_offender (source : String) (draft : Draft) (fault : ManifestFault)
    (refused : draft.admit source = .error fault) :
    draft.FirstOffender fault ∧
      ∀ path other : NodePath, path.words = other.words → path = other := by
  have complained := ((draft.admit_decided source).error_iff fault).1 refused
  rw [Draft.complaint?] at complained
  refine ⟨⟨?_, ?_⟩, fun path other equal => NodePath.words_injective equal⟩
  · intro name given unknown
    have here : draft.settings.dialectFault? source =
        some (.unknownDialect name (dialectSpan? source name)) := by
      simp [Settings.dialectFault?, given, ← isSome_ofName?_iff] at unknown ⊢
      exact unknown
    rw [here] at complained
    exact ⟨_, (Option.some.inj complained).symm⟩
  · intro known
    rw [(Settings.dialectFault?_eq_none_iff source draft.settings).2 known, Option.none_or]
      at complained
    obtain ⟨before, ⟨name, block⟩, after, equal, broken, proper⟩ :=
      List.findSome?_eq_some_iff.1 complained
    refine ⟨before, name, block, after, equal, ?_, ?_, ?_⟩
    · intro entry member
      exact (BlockDraft.complaint?_eq_none_iff source entry.1 entry.2).1 (proper entry member)
    · exact BlockDraft.invalidName_of_complaint? broken
    · intro isName
      obtain ⟨path, rule, span, rfl, first⟩ := BlockDraft.invalidNode_of_complaint? broken isName
      exact ⟨path, rule, span, rfl, nodeOffence_of_first span first⟩

/-- A draft whose second block goes wrong deep inside, before a node without a kind. -/
def Draft.disorderly : Draft where
  settings := { dialect := some "GO" }
  blocks := ((Catalog.empty.insert "a" { nodes := [{ scope := some "" }] }).insert "b"
    { nodes :=
        [{ verbatim := some "x\ny" },
         { scope := some "if"
           nodes := some [{ scope := some "" }, { statement := some "x\ny" }] },
         {}] }).insert "3" {}

theorem Draft.admit_disorderly :
    let fault : ManifestFault := .invalidNode "b" [1, 1] .severalLines none
    Draft.disorderly.admit "" = .error fault ∧ Draft.disorderly.FirstOffender fault ∧
      fault.message = "invalid node nodes[1].nodes[1] in block 'b': " ++
        "statements must be a single line; use 'verbatim' for multi-line text" := by
  intro fault
  have complained : Draft.disorderly.complaint? "" = some fault := by decide +kernel
  have refused := ((Draft.admit_decided "" Draft.disorderly).error_iff _).2 complained
  exact ⟨refused, (Draft.admit_error_first_offender "" Draft.disorderly _ refused).1,
    by decide +kernel⟩

end CodeBlocks
