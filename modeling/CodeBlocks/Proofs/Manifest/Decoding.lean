/-
**Reading documents back.**

A document that a manifest stands in is read into a draft that says what the manifest says.  Which
fields were left out, in which order they came, and how the tables came to be makes no difference.

A table is read entry by entry.  What the record says after some entries is a matter of their names:
a field that was named says what it should, and the others are blank.  At the end a field without a
name has been left out, so blank is right.

Main definitions:

* `CodeBlocks.AddsFields` — what an entry does to a record and to what is said of it;
* `CodeBlocks.Settings.IsRegular` — the settings that can be written;
* `CodeBlocks.Settings.only`, `CodeBlocks.NodeDraft.ReadsScope`, `CodeBlocks.BlockDraft.Reads`,
  `CodeBlocks.Draft.Reads` — what a record says after some entries.

Main results:

* `CodeBlocks.Toml.Fills.read` — **a table is read entry by entry**;
* `CodeBlocks.Settings.ofItem_of_isTableOf`, `CodeBlocks.NodeDraft.describes_of_isTableOf`,
  `CodeBlocks.BlockDraft.describes_of_isTableOf` — the tables of a manifest;
* `CodeBlocks.Draft.describes_of_isWrittenAs` — **the draft of a document says what the manifest
  says**.
-/
import CodeBlocks.Manifest.Decode
import CodeBlocks.Proofs.Manifest.Admission
import CodeBlocks.Proofs.Manifest.Layout

set_option relaxedAutoImplicit false
set_option autoImplicit false

namespace CodeBlocks

open Decode (Failure Found)
open Toml (Entry Field Fills Item Table)

/-! ### Entries -/

/-- What is said of a record and the names that were read is kept by every entry. -/
theorem exists_foldlM {ρ : Type} {add : ρ → Entry → Except Failure ρ}
    {Reads : List String → ρ → Prop} {entries : List Entry}
    (step : ∀ entry ∈ entries, ∀ names record, Reads names record →
      ∃ next, add record entry = .ok next ∧ Reads (names ++ [entry.key.name]) next)
    {names : List String} {record : ρ} (reads : Reads names record) :
    ∃ final, entries.foldlM add record = .ok final ∧
      Reads (names ++ entries.map fun entry => entry.key.name) final := by
  induction entries generalizing names record with
  | nil => exact ⟨record, rfl, by simpa using reads⟩
  | cons entry entries ih =>
      obtain ⟨next, added, further⟩ := step entry List.mem_cons_self names record reads
      obtain ⟨final, folded, reads⟩ :=
        ih (fun other member => step other (List.mem_cons_of_mem _ member)) further
      refine ⟨final, ?_, by simpa using reads⟩
      rw [List.foldlM_cons, added]
      exact folded

/-- **Entries add their fields** to a record: adding an entry of one of the fields does not fail,
and what was said of the record and the names is then said with the name of the field. -/
def AddsFields {ρ : Type} (fields : List Field) (add : ρ → Entry → Except Failure ρ)
    (Reads : List String → ρ → Prop) : Prop :=
  ∀ field ∈ fields, ∀ span item, field.holds item → ∀ names record, Reads names record →
    ∃ next, add record ⟨⟨field.name, span⟩, item⟩ = .ok next ∧ Reads (names ++ [field.name]) next

/-- **The entries of a table are read.**  Each of them adds its field, and at the end a field that
has no name among them has been left out. -/
theorem Toml.Fills.read {fields : List Field} {entries : List Entry} (fills : Fills fields entries)
    {ρ : Type} {add : ρ → Entry → Except Failure ρ} {Reads : List String → ρ → Prop}
    (adds : AddsFields fields add Reads) {blank : ρ} (start : Reads [] blank) :
    ∃ record names, entries.foldlM add blank = .ok record ∧ Reads names record ∧
      ∀ field ∈ fields, field.optional ∨ field.name ∈ names := by
  have each : ∀ entry ∈ entries, ∀ names record, Reads names record →
      ∃ next, add record entry = .ok next ∧ Reads (names ++ [entry.key.name]) next := by
    rintro ⟨⟨name, span⟩, item⟩ member
    obtain ⟨field, among, same, holds⟩ := fills.known _ member
    obtain rfl : name = field.name := same
    exact adds field among span item holds
  obtain ⟨record, folded, reads⟩ := exists_foldlM each start
  refine ⟨record, _, folded, reads, fun field among => ?_⟩
  refine (fills.complete field among).imp_right ?_
  rintro ⟨entry, member, same⟩
  exact List.mem_map.2 ⟨entry, member, same⟩

/-- A field that has no name among those that were read has been left out, because it is blank. -/
theorem ite_named {α : Type} {name : String} {names : List String} {value blank : α}
    {optional : Prop} (complete : optional ∨ name ∈ names) (empty : optional → value = blank) :
    (if name ∈ names then value else blank) = value := by
  split
  case isTrue => rfl
  case isFalse unnamed => exact (empty (complete.resolve_right unnamed)).symm

/-! ### Settings -/

theorem textOf_of_isText {item : Item} {text : String} (is : item.IsText text) :
    textOf item = .ok text := by
  obtain ⟨span, rfl⟩ := is
  rfl

/-- An item is read as what is found. -/
theorem Toml.Item.read_eq_ok {α : Type} {item : Item} {found : Found} {value : α}
    {reader : Found → Except Decode.Fault α} (seen : item.found = .ok found)
    (fits : reader found = .ok value) : item.read reader = .ok value := by
  have both : item.found.bind reader = .ok value := by
    rw [seen]
    exact fits
  rw [Item.read, both]

/-- A natural number of less than 64 bits is found as it is. -/
theorem found_of_isInteger {item : Item} {value : Nat} (is : item.IsInteger value)
    (fits : value < Nat.pow 2 63) : item.found = .ok (.integer value) := by
  obtain ⟨span, rfl⟩ := is
  have low : Int.pow 2 63 = 9223372036854775808 := by decide +kernel
  have high : Int.pow 2 64 = 18446744073709551616 := by decide +kernel
  have limit : Nat.pow 2 63 = 9223372036854775808 := by decide +kernel
  have within : Decode.fits64 value = true := by
    rw [Decode.fits64, low, high, Bool.and_eq_true, decide_eq_true_eq, decide_eq_true_eq]
    omega
  rw [Item.found, Found.ofInteger, if_pos within]

/-- A style within the bounds is read back. -/
theorem read_of_isIndent {item : Item} {indent : Indent} (is : item.IsIndent indent)
    (bounds : ∀ width, indent = .spaces width → 1 ≤ width ∧ width ≤ Indent.widest) :
    item.read Indent.ofFound = .ok indent := by
  cases indent with
  | spaces width =>
      obtain ⟨low, high⟩ := bounds width rfl
      have small : width ≤ 8 := high
      have within : (1 ≤ (width : Int) && (width : Int) ≤ Indent.widest) = true := by
        simp only [Bool.and_eq_true, decide_eq_true_eq]
        omega
      have style : Indent.ofFound (.integer width) = .ok (.spaces width) := if_pos within
      exact Item.read_eq_ok (found_of_isInteger is (Nat.lt_of_le_of_lt small (by decide))) style
  | tab =>
      obtain ⟨span, rfl⟩ := is
      have word : "tab".toLower = "tab" := by decide +kernel
      have style : Indent.ofFound (.text "tab") = .ok .tab := if_pos word
      exact Item.read_eq_ok rfl style

/-- A level of less than 64 bits is read back. -/
theorem read_of_isInteger {item : Item} {level : Nat} (is : item.IsInteger level)
    (fits : level < Nat.pow 2 63) : item.read countOfFound = .ok level := by
  have count : countOfFound (.integer level) = .ok level := by simp [countOfFound]
  exact Item.read_eq_ok (found_of_isInteger is fits) count

/-- The settings as far as their fields have some names. -/
def Settings.only (settings : Settings) (names : List String) : Settings where
  dialect := if "dialect" ∈ names then settings.dialect else none
  separator := if "separator" ∈ names then settings.separator else none
  indent := if "indent" ∈ names then settings.indent else none
  baseIndent := if "base_indent" ∈ names then settings.baseIndent else 0

/-- Settings that can be written. -/
structure Settings.IsRegular (settings : Settings) : Prop where
  dialect : ∀ name, settings.dialect = some name → IsDialectName name
  indent : ∀ width, settings.indent = some (.spaces width) → 1 ≤ width ∧ width ≤ Indent.widest
  baseIndent : settings.baseIndent < Nat.pow 2 63

theorem Settings.addsFields {settings : Settings} (regular : settings.IsRegular) :
    AddsFields settings.layout Settings.addEntry fun names record =>
      record = settings.only names := by
  simp only [AddsFields, Settings.layout, List.forall_mem_cons]
  refine ⟨?dialect, ?separator, ?indent, ?baseIndent, nofun⟩
  case dialect =>
    rintro span item ⟨text, given, is⟩ names _ rfl
    refine ⟨_, ?_, rfl⟩
    simp [Settings.addEntry, textOf_of_isText is, Settings.only, given, Field.ofOption]
  case separator =>
    rintro span item ⟨text, given, is⟩ names _ rfl
    refine ⟨_, ?_, rfl⟩
    simp [Settings.addEntry, textOf_of_isText is, Settings.only, given, Field.ofOption]
  case indent =>
    rintro span item ⟨indent, given, is⟩ names _ rfl
    have read := read_of_isIndent is fun width same => regular.indent width (same ▸ given)
    refine ⟨_, ?_, rfl⟩
    simp [Settings.addEntry, read, Settings.only, given, Field.ofOption]
  case baseIndent =>
    rintro span item is names _ rfl
    have read := read_of_isInteger is regular.baseIndent
    refine ⟨_, ?_, rfl⟩
    simp [Settings.addEntry, read, Settings.only]

/-- **Settings are read back.** -/
theorem Settings.ofItem_of_isTableOf {settings : Settings} (regular : settings.IsRegular)
    {item : Item} (written : item.IsTableOf (Fills settings.layout)) :
    Settings.ofItem item = .ok settings := by
  obtain ⟨form, entries, span, rfl, fills⟩ := written
  obtain ⟨record, names, folded, rfl, complete⟩ := fills.read (Settings.addsFields regular) rfl
  simp only [Settings.layout, Field.ofOption, List.forall_mem_cons] at complete
  obtain ⟨dialect, separator, indent, baseIndent, _⟩ := complete
  have whole : settings.only names = settings := by
    rw [Settings.only, ite_named dialect id, ite_named separator id, ite_named indent id,
      ite_named baseIndent id]
  rw [whole] at folded
  exact folded

/-! ### Nodes -/

def NodeDraft.addEntry (draft : NodeDraft) (entry : Entry) : Except Failure NodeDraft :=
  match entry.key.name with
  | "statement" => return { draft with statement := some (← textOf entry.item) }
  | "scope" => return { draft with scope := some (← textOf entry.item) }
  | "verbatim" => return { draft with verbatim := some (← textOf entry.item) }
  | "close" => return { draft with close := some (← textOf entry.item) }
  | "nodes" => return { draft with nodes := some (← NodeDraft.listOfItem entry.item) }
  | name => (Decode.Fault.unknownField name NodeDraft.record).at entry.key.span

/-- The entries of a node are read one after the other, as those of the other tables. -/
theorem NodeDraft.ofEntries_eq_foldlM (draft : NodeDraft) (entries : List Entry) :
    NodeDraft.ofEntries draft entries = entries.foldlM NodeDraft.addEntry draft := by
  induction entries generalizing draft with
  | nil => rw [NodeDraft.ofEntries]; rfl
  | cons entry entries ih =>
      obtain ⟨⟨name, span⟩, item⟩ := entry
      rw [List.foldlM_cons, NodeDraft.ofEntries, NodeDraft.addEntry]
      dsimp only
      split
      case h_6 => simp [Decode.Fault.at, bind, Except.bind]
      all_goals simp [ih]

/-- A node with one text is read. -/
theorem NodeDraft.ofItem_of_required {name text : String} {leaf : NodeDraft} {item : Item}
    (written : item.IsTableOf (Fills [.required name fun item => item.IsText text]))
    (put : ∀ draft, draft = {} ∨ draft = leaf → ∀ span item, item.IsText text →
      NodeDraft.addEntry draft ⟨⟨name, span⟩, item⟩ = .ok leaf) :
    NodeDraft.ofItem item = .ok leaf := by
  obtain ⟨form, entries, span, rfl, fills⟩ := written
  have adds : AddsFields [.required name fun item => item.IsText text] NodeDraft.addEntry
      fun names draft => draft = if name ∈ names then leaf else {} := by
    intro field member span item is names draft reads
    obtain rfl := List.mem_singleton.1 member
    refine ⟨leaf, put draft ?_ span item is, ?_⟩
    · split at reads
      · exact Or.inr reads
      · exact Or.inl reads
    · exact (if_pos (List.mem_append_right _ (List.mem_singleton.2 rfl))).symm
  have start : ({} : NodeDraft) = if name ∈ [] then leaf else {} := (if_neg List.not_mem_nil).symm
  obtain ⟨draft, names, folded, rfl, complete⟩ := fills.read adds start
  have named : name ∈ names := (complete _ (List.mem_singleton.2 rfl)).resolve_left id
  rw [if_pos named] at folded
  rw [NodeDraft.ofItem, NodeDraft.ofEntries_eq_foldlM, folded]

/-- **Nodes are read back**, whatever items they stand in: there are drafts that say what they
say. -/
def NodeSpec.AreReadBack (specs : List NodeSpec) : Prop :=
  ∀ items, NodeSpec.AreWrittenAs specs items → ∃ drafts,
    NodeDraft.listOfItems items = .ok drafts ∧ NodeDraft.DescribesAll drafts specs

/-- The nodes of an array are read. -/
theorem NodeDraft.listOfItem_of_isArrayOf {specs : List NodeSpec} {item : Item}
    (written : item.IsArrayOf (NodeSpec.AreWrittenAs specs))
    (inner : NodeSpec.AreReadBack specs) :
    ∃ drafts, NodeDraft.listOfItem item = .ok drafts ∧ NodeDraft.DescribesAll drafts specs := by
  obtain ⟨items, headed, span, rfl, elements⟩ := written
  rw [NodeDraft.listOfItem]
  exact inner items elements

/-- **What was read of a scope** after entries of some names: the texts that were named, and the
nodes if they have been there. -/
def NodeDraft.ReadsScope (header : String) (close : Option String) (specs : List NodeSpec)
    (names : List String) (draft : NodeDraft) : Prop :=
  ∃ nodes, draft =
      { scope := if "scope" ∈ names then some header else none
        close := if "close" ∈ names then close else none
        nodes } ∧
    (NodeDraft.DescribesAll (nodes.getD []) specs ∨ nodes = none ∧ "nodes" ∉ names)

theorem NodeDraft.addsFields_scope {header : String} {close : Option String}
    {specs : List NodeSpec} (inner : NodeSpec.AreReadBack specs) :
    AddsFields (NodeSpec.scope header close specs).layout NodeDraft.addEntry
      (NodeDraft.ReadsScope header close specs) := by
  simp only [AddsFields, NodeSpec.layout, List.forall_mem_cons]
  refine ⟨?scope, ?close, ?nodes, nofun⟩
  case scope =>
    rintro span item is names _ ⟨nodes, rfl, all⟩
    refine ⟨_, ?_, nodes, rfl, ?_⟩
    · simp [NodeDraft.addEntry, textOf_of_isText is, Field.required]
    · simpa [Field.required] using all
  case close =>
    rintro span item ⟨text, rfl, is⟩ names _ ⟨nodes, rfl, all⟩
    refine ⟨_, ?_, nodes, rfl, ?_⟩
    · simp [NodeDraft.addEntry, textOf_of_isText is, Field.ofOption]
    · simpa [Field.ofOption] using all
  case nodes =>
    rintro span item written names _ ⟨nodes, rfl, _⟩
    obtain ⟨drafts, read, all⟩ := NodeDraft.listOfItem_of_isArrayOf written inner
    refine ⟨_, ?_, some drafts, rfl, Or.inl all⟩
    simp [NodeDraft.addEntry, read]

/-- A scope is read, if the nodes inside it are. -/
theorem NodeDraft.describes_scope {header : String} {close : Option String} {specs : List NodeSpec}
    {item : Item} (written : item.IsTableOf (Fills (NodeSpec.scope header close specs).layout))
    (inner : NodeSpec.AreReadBack specs) :
    ∃ draft, NodeDraft.ofItem item = .ok draft ∧ draft.Describes (.scope header close specs) := by
  obtain ⟨form, entries, span, rfl, fills⟩ := written
  have start : NodeDraft.ReadsScope header close specs [] {} := ⟨none, rfl, Or.inr ⟨rfl, nofun⟩⟩
  obtain ⟨_, names, folded, ⟨nodes, rfl, all⟩, complete⟩ :=
    fills.read (NodeDraft.addsFields_scope inner) start
  simp only [NodeSpec.layout, Field.required, Field.ofOption, List.forall_mem_cons] at complete
  obtain ⟨scope, closing, within, _⟩ := complete
  rw [ite_named closing id, ite_named scope False.elim] at folded
  refine ⟨_, by rw [NodeDraft.ofItem, NodeDraft.ofEntries_eq_foldlM, folded], ?_⟩
  refine NodeDraft.Describes.scope header close nodes specs ?_
  rcases all with all | ⟨rfl, unnamed⟩
  · exact all
  · obtain rfl := within.resolve_right unnamed
    exact NodeDraft.DescribesAll.nil

mutual

/-- **A node is read**, and its draft says what it says. -/
theorem NodeDraft.describes_of_isTableOf : ∀ (spec : NodeSpec) (item : Item),
    item.IsTableOf (Fills spec.layout) →
      ∃ draft, NodeDraft.ofItem item = .ok draft ∧ draft.Describes spec
  | .statement text, item, written => by
      refine ⟨_, NodeDraft.ofItem_of_required written ?_, .statement text⟩
      rintro draft (rfl | rfl) span item is <;>
        simp [NodeDraft.addEntry, textOf_of_isText is]
  | .verbatim text, item, written => by
      refine ⟨_, NodeDraft.ofItem_of_required written ?_, .verbatim text⟩
      rintro draft (rfl | rfl) span item is <;>
        simp [NodeDraft.addEntry, textOf_of_isText is]
  | .scope header close specs, item, written =>
      NodeDraft.describes_scope written (NodeSpec.areReadBack specs)

/-- The same for several nodes. -/
theorem NodeSpec.areReadBack : ∀ specs : List NodeSpec, NodeSpec.AreReadBack specs
  | [], [], _ => ⟨[], rfl, .nil⟩
  | spec :: specs, item :: items, written => by
      obtain ⟨first, others⟩ := written
      obtain ⟨draft, here, described⟩ := NodeDraft.describes_of_isTableOf spec item first
      obtain ⟨drafts, there, all⟩ := NodeSpec.areReadBack specs items others
      refine ⟨draft :: drafts, ?_, .cons described all⟩
      rw [NodeDraft.listOfItems, here, there]
      rfl

end

/-! ### Blocks -/

/-- **What was read of a block** after entries of some names. -/
structure BlockDraft.Reads (spec : BlockSpec) (names : List String) (draft : BlockDraft) :
    Prop where
  description : draft.description = if "description" ∈ names then spec.description else none
  nodes : NodeDraft.DescribesAll draft.nodes spec.nodes ∨ draft.nodes = [] ∧ "nodes" ∉ names

theorem BlockDraft.addsFields {spec : BlockSpec} :
    AddsFields spec.layout BlockDraft.addEntry (BlockDraft.Reads spec) := by
  simp only [AddsFields, BlockSpec.layout, List.forall_mem_cons]
  refine ⟨?description, ?nodes, nofun⟩
  case description =>
    rintro span item ⟨text, given, is⟩ names draft ⟨_, all⟩
    refine ⟨{ draft with description := some text }, ?_, ?_, ?_⟩
    · simp [BlockDraft.addEntry, textOf_of_isText is, Field.ofOption]
    · simp [given, Field.ofOption]
    · simpa [Field.ofOption] using all
  case nodes =>
    rintro span item written names draft ⟨description, _⟩
    obtain ⟨drafts, read, all⟩ := NodeDraft.listOfItem_of_isArrayOf written
      (NodeSpec.areReadBack spec.nodes)
    refine ⟨{ draft with nodes := drafts }, ?_, ?_, Or.inl all⟩
    · simp [BlockDraft.addEntry, read]
    · simpa using description

/-- **A block is read**, and its draft says what it says. -/
theorem BlockDraft.describes_of_isTableOf {spec : BlockSpec} {item : Item}
    (written : item.IsTableOf (Fills spec.layout)) :
    ∃ draft, BlockDraft.ofItem item = .ok draft ∧ draft.Describes spec := by
  obtain ⟨form, entries, span, rfl, fills⟩ := written
  have start : BlockDraft.Reads spec [] {} := ⟨rfl, Or.inr ⟨rfl, nofun⟩⟩
  obtain ⟨draft, names, folded, ⟨description, all⟩, complete⟩ :=
    fills.read BlockDraft.addsFields start
  simp only [BlockSpec.layout, Field.ofOption, List.forall_mem_cons] at complete
  obtain ⟨described, within, _⟩ := complete
  rw [ite_named described id] at description
  refine ⟨draft, folded, description.symm, ?_⟩
  rcases all with all | ⟨empty, unnamed⟩
  · exact all
  · rw [empty, within.resolve_right unnamed]
    exact NodeDraft.DescribesAll.nil

/-- Blocks are read into a catalog behind those that are there. -/
theorem exists_blockDrafts {blocks : List (String × BlockSpec)} {entries : List Entry}
    (written : List.Forall₂ BlockSpec.IsWrittenAs blocks entries)
    (nodup : (blocks.map Prod.fst).Nodup) (catalog : Catalog BlockDraft)
    (fresh : ∀ block ∈ blocks, block.1 ∉ catalog.names) :
    ∃ drafts result, entries.foldlM (fun catalog entry =>
        return catalog.insert entry.key.name (← BlockDraft.ofItem entry.item)) catalog =
          (.ok result : Except Failure (Catalog BlockDraft)) ∧
      result.entries = catalog.entries ++ drafts ∧ EntriesDescribe drafts blocks := by
  induction written generalizing catalog with
  | nil => exact ⟨[], catalog, rfl, (List.append_nil _).symm, .nil⟩
  | @cons block entry blocks entries first others ih =>
      obtain ⟨same, item⟩ := first
      obtain ⟨draft, read, described⟩ := BlockDraft.describes_of_isTableOf item
      obtain ⟨new, nodup⟩ := List.nodup_cons.1 nodup
      have absent : block.1 ∉ catalog.names := fresh block List.mem_cons_self
      have still : ∀ other ∈ blocks, other.1 ∉ (catalog.insert block.1 draft).names := by
        intro other member
        refine Catalog.not_mem_names_insert draft (fresh other (List.mem_cons_of_mem _ member)) ?_
        exact fun equal => new (List.mem_map.2 ⟨other, member, equal⟩)
      obtain ⟨drafts, result, folded, equal, all⟩ := ih nodup _ still
      refine ⟨(block.1, draft) :: drafts, result, ?_, ?_, .cons ⟨rfl, described⟩ all⟩
      · rw [List.foldlM_cons, read, same]
        exact folded
      · rw [equal, Catalog.entries_insert_of_not_mem _ _ absent, List.append_assoc]
        rfl

/-- **The blocks are read**, in their order. -/
theorem blockDraftsOf_of_isTableOf {blocks : Catalog BlockSpec} {item : Item}
    (written : item.IsTableOf (List.Forall₂ BlockSpec.IsWrittenAs blocks.entries)) :
    ∃ drafts, blockDraftsOf item = .ok drafts ∧
      EntriesDescribe drafts.entries blocks.entries := by
  obtain ⟨form, entries, span, rfl, each⟩ := written
  obtain ⟨drafts, result, folded, equal, all⟩ :=
    exists_blockDrafts each blocks.nodup .empty (fun _ _ => List.not_mem_nil)
  refine ⟨result, folded, ?_⟩
  rw [equal]
  exact all

/-! ### Manifests -/

/-- **What was read of a manifest** after entries of some names. -/
structure Draft.Reads (manifest : Manifest) (names : List String) (draft : Draft) : Prop where
  settings : draft.settings = if "settings" ∈ names then manifest.settings else {}
  blocks : EntriesDescribe draft.blocks.entries manifest.blocks.entries ∨
    draft.blocks.entries = [] ∧ "blocks" ∉ names

theorem Draft.addsFields {manifest : Manifest} (regular : manifest.settings.IsRegular) :
    AddsFields manifest.layout Draft.addEntry (Draft.Reads manifest) := by
  simp only [AddsFields, Manifest.layout, List.forall_mem_cons]
  refine ⟨?settings, ?blocks, nofun⟩
  case settings =>
    rintro span item written names draft ⟨_, all⟩
    have read := Settings.ofItem_of_isTableOf regular written
    refine ⟨{ draft with settings := manifest.settings }, ?_, ?_, ?_⟩
    · simp [Draft.addEntry, read]
    · simp
    · simpa using all
  case blocks =>
    rintro span item written names draft ⟨settings, _⟩
    obtain ⟨drafts, read, all⟩ := blockDraftsOf_of_isTableOf written
    refine ⟨{ draft with blocks := drafts }, ?_, ?_, Or.inl all⟩
    · simp [Draft.addEntry, read]
    · simpa using settings

/-- **The draft of a document says what the manifest says** that stands in it. -/
theorem Draft.describes_of_isWrittenAs {manifest : Manifest}
    (regular : manifest.settings.IsRegular) {table : Table}
    (written : manifest.IsWrittenAs table) :
    ∃ draft, Draft.ofTable table = .ok draft ∧ draft.Describes manifest := by
  have start : Draft.Reads manifest [] {} := ⟨rfl, Or.inr ⟨rfl, nofun⟩⟩
  obtain ⟨draft, names, folded, ⟨settings, all⟩, complete⟩ :=
    written.read (Draft.addsFields regular) start
  simp only [Manifest.layout, List.forall_mem_cons] at complete
  obtain ⟨set, within, _⟩ := complete
  rw [ite_named set id] at settings
  refine ⟨draft, folded, settings.symm, ?_⟩
  rcases all with all | ⟨empty, unnamed⟩
  · exact all
  · rw [empty, within.resolve_right unnamed]
    exact List.Forall₂.nil

end CodeBlocks
