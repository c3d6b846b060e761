/-
**Manifests in documents.**

How a manifest stands in a document: which tables there are, which fields each of them has, and
which of these may be left out.  The same manifest can stand in many documents, so this is a
relation: fields come in any order, what is empty may be left out, and places in the text and the
way in which a table or an array came to be do not matter.  Only blocks and nodes have to be in
order.

Main definitions:

* `CodeBlocks.Toml.Field`, `CodeBlocks.Toml.Fills` — the fields of a table, and entries that fill
  them;
* `CodeBlocks.Settings.layout`, `CodeBlocks.NodeSpec.layout`, `CodeBlocks.BlockSpec.layout`,
  `CodeBlocks.Manifest.layout` — the fields of each table;
* `CodeBlocks.Manifest.IsWrittenAs` — **a manifest stands in a document**;
* `CodeBlocks.Manifest.toTable` — a document for every manifest.

Main results:

* `CodeBlocks.Manifest.isWrittenAs_toTable` — every manifest stands in its document.
-/
import CodeBlocks.Manifest
import CodeBlocks.Toml.Item
import Mathlib.Data.List.Forall2

set_option relaxedAutoImplicit false
set_option autoImplicit false

namespace CodeBlocks

namespace Toml

open Text (Span)

/-! ### Items -/

def Item.IsText (item : Item) (text : String) : Prop := ∃ span, item = .scalar (.text text) span

def Item.IsInteger (item : Item) (value : Int) : Prop :=
  ∃ span, item = .scalar (.integer value) span

def Item.IsArrayOf (item : Item) (elements : List Item → Prop) : Prop :=
  ∃ items headed span, item = .array items headed span ∧ elements items

def Item.IsTableOf (item : Item) (content : List Entry → Prop) : Prop :=
  ∃ form entries span, item = .table ⟨form, entries⟩ span ∧ content entries

/-- An item that is an indentation style: the number of spaces, or the word `tab`. -/
def Item.IsIndent (item : Item) : Indent → Prop
  | .spaces width => item.IsInteger width
  | .tab => item.IsText "tab"

/-! ### Fields -/

/-- **A field of a table**: its name, what its item is, and whether it may be left out. -/
structure Field where
  name : String
  holds : Item → Prop
  optional : Prop

def Field.required (name : String) (holds : Item → Prop) : Field := ⟨name, holds, False⟩

/-- A field that is there exactly if there is a value for it. -/
def Field.ofOption {α : Type} (name : String) (value : Option α) (is : Item → α → Prop) : Field :=
  ⟨name, fun item => ∃ given, value = some given ∧ is item given, value = none⟩

/-- **Entries that fill fields**: each of them is one of the fields, and each field is there unless
it may be left out.  That no name comes twice need not be asked, since no table has one twice. -/
structure Fills (fields : List Field) (entries : List Entry) : Prop where
  known : ∀ entry ∈ entries, ∃ field ∈ fields, entry.key.name = field.name ∧ field.holds entry.item
  complete : ∀ field ∈ fields, field.optional ∨ ∃ entry ∈ entries, entry.key.name = field.name

theorem Fills.nil : Fills [] [] := ⟨nofun, nofun⟩

/-- Fields are filled one after the other. -/
theorem Fills.cons {field : Field} {fields : List Field} {own others : List Entry}
    (fits : ∀ entry ∈ own, entry.key.name = field.name ∧ field.holds entry.item)
    (there : field.optional ∨ own ≠ []) (rest : Fills fields others) :
    Fills (field :: fields) (own ++ others) where
  known := by
    intro entry member
    rcases List.mem_append.1 member with mine | other
    · exact ⟨field, List.mem_cons_self, fits entry mine⟩
    · obtain ⟨found, among, holds⟩ := rest.known entry other
      exact ⟨found, List.mem_cons_of_mem _ among, holds⟩
  complete := by
    intro found member
    rcases List.mem_cons.1 member with rfl | among
    · refine there.imp_right fun some => ?_
      obtain ⟨entry, mine⟩ := List.exists_mem_of_ne_nil own some
      exact ⟨entry, List.mem_append_left _ mine, (fits entry mine).1⟩
    · refine (rest.complete found among).imp_right ?_
      rintro ⟨entry, other, same⟩
      exact ⟨entry, List.mem_append_right _ other, same⟩

/-- A field that may be left out need not be there. -/
theorem Fills.cons_absent {field : Field} {fields : List Field} {entries : List Entry}
    (optional : field.optional) (rest : Fills fields entries) :
    Fills (field :: fields) entries := by
  have own : ∀ entry ∈ ([] : List Entry), entry.key.name = field.name ∧ field.holds entry.item :=
    nofun
  exact Fills.cons own (Or.inl optional) rest

/-- The order of the entries does not matter. -/
theorem Fills.perm {fields : List Field} {entries others : List Entry}
    (fills : Fills fields entries) (same : entries.Perm others) : Fills fields others where
  known entry member := fills.known entry (same.mem_iff.2 member)
  complete field member := (fills.complete field member).imp_right fun ⟨entry, among, named⟩ =>
    ⟨entry, same.mem_iff.1 among, named⟩

/-! ### Documents without places -/

/-- The place of what stands in no text. -/
def noPlace : Span := ⟨0, 0⟩

def Item.ofText (text : String) : Item := .scalar (.text text) noPlace

def Item.ofInteger (value : Int) : Item := .scalar (.integer value) noPlace

def Item.ofItems (items : List Item) : Item := .array items false noPlace

def Item.ofEntries (entries : List Entry) : Item := .table ⟨.inline, entries⟩ noPlace

def Item.ofIndent : Indent → Item
  | .spaces width => .ofInteger width
  | .tab => .ofText "tab"

def Entry.of (name : String) (item : Item) : Entry := ⟨⟨name, noPlace⟩, item⟩

def Entry.ofOption {α : Type} (name : String) (value : Option α) (write : α → Item) : List Entry :=
  value.toList.map fun given => .of name (write given)

theorem Item.isText_ofText (text : String) : (Item.ofText text).IsText text := ⟨noPlace, rfl⟩

theorem Item.isIndent_ofIndent (indent : Indent) : (Item.ofIndent indent).IsIndent indent := by
  cases indent with
  | spaces width => exact ⟨noPlace, rfl⟩
  | tab => exact ⟨noPlace, rfl⟩

theorem Item.isArrayOf_ofItems {elements : List Item → Prop} {items : List Item}
    (holds : elements items) : (Item.ofItems items).IsArrayOf elements :=
  ⟨items, false, noPlace, rfl, holds⟩

theorem Item.isTableOf_ofEntries {content : List Entry → Prop} {entries : List Entry}
    (holds : content entries) : (Item.ofEntries entries).IsTableOf content :=
  ⟨.inline, entries, noPlace, rfl, holds⟩

/-- One entry fills a field. -/
theorem Fills.cons_of {field : Field} {fields : List Field} {item : Item} {others : List Entry}
    (holds : field.holds item) (rest : Fills fields others) :
    Fills (field :: fields) (.of field.name item :: others) := by
  have own : ∀ entry ∈ [Entry.of field.name item],
      entry.key.name = field.name ∧ field.holds entry.item := by
    intro entry member
    obtain rfl := List.mem_singleton.1 member
    exact ⟨rfl, holds⟩
  exact Fills.cons own (Or.inr (List.cons_ne_nil _ _)) rest

/-- A field for an optional value is filled by its entry, if there is one. -/
theorem Fills.cons_ofOption {α : Type} {name : String} {value : Option α} {write : α → Item}
    {is : Item → α → Prop} (right : ∀ given, is (write given) given) {fields : List Field}
    {others : List Entry} (rest : Fills fields others) :
    Fills (.ofOption name value is :: fields) (Entry.ofOption name value write ++ others) := by
  cases value with
  | none => exact Fills.cons_absent rfl rest
  | some given => exact Fills.cons_of ⟨given, rfl, right given⟩ rest

end Toml

open Toml (Entry Field Fills Item Table)

/-! ### The tables of a manifest -/

/-- **The fields of the settings.**  The base level may be left out if it is the lowest. -/
def Settings.layout (settings : Settings) : List Field :=
  [.ofOption "dialect" settings.dialect Item.IsText,
   .ofOption "separator" settings.separator Item.IsText,
   .ofOption "indent" settings.indent Item.IsIndent,
   ⟨"base_indent", fun item => item.IsInteger settings.baseIndent, settings.baseIndent = 0⟩]

mutual

/-- **The fields of a node.**  A scope without nodes may leave them out. -/
def NodeSpec.layout : NodeSpec → List Field
  | .statement text => [.required "statement" fun item => item.IsText text]
  | .verbatim text => [.required "verbatim" fun item => item.IsText text]
  | .scope header close nodes =>
    [.required "scope" fun item => item.IsText header,
     .ofOption "close" close Item.IsText,
     ⟨"nodes", fun item => item.IsArrayOf (NodeSpec.AreWrittenAs nodes), nodes = []⟩]

/-- Nodes stand in the elements of an array, one for one and in order, and each is a table. -/
def NodeSpec.AreWrittenAs : List NodeSpec → List Item → Prop
  | [], [] => True
  | node :: nodes, item :: items =>
    item.IsTableOf (Fills node.layout) ∧ NodeSpec.AreWrittenAs nodes items
  | _, _ => False

end

/-- **The fields of a block.**  One without nodes may leave them out. -/
def BlockSpec.layout (spec : BlockSpec) : List Field :=
  [.ofOption "description" spec.description Item.IsText,
   ⟨"nodes", fun item => item.IsArrayOf (NodeSpec.AreWrittenAs spec.nodes), spec.nodes = []⟩]

/-- A block stands in the table under its name. -/
def BlockSpec.IsWrittenAs (block : String × BlockSpec) (entry : Entry) : Prop :=
  entry.key.name = block.1 ∧ entry.item.IsTableOf (Fills block.2.layout)

/-- **The fields of a manifest**: the settings, and the blocks in their order.  Either table may be
left out if it would be empty. -/
def Manifest.layout (manifest : Manifest) : List Field :=
  [⟨"settings", fun item => item.IsTableOf (Fills manifest.settings.layout),
      manifest.settings = {}⟩,
   ⟨"blocks",
      fun item => item.IsTableOf (List.Forall₂ BlockSpec.IsWrittenAs manifest.blocks.entries),
      manifest.blocks.entries = []⟩]

/-- **A manifest stands in a document.** -/
def Manifest.IsWrittenAs (manifest : Manifest) (table : Table) : Prop :=
  Fills manifest.layout table.entries

/-! ### A document for every manifest -/

def Settings.toEntries (settings : Settings) : List Entry :=
  Entry.ofOption "dialect" settings.dialect .ofText ++
    (Entry.ofOption "separator" settings.separator .ofText ++
      (Entry.ofOption "indent" settings.indent .ofIndent ++
        [.of "base_indent" (.ofInteger settings.baseIndent)]))

mutual

def NodeSpec.toEntries : NodeSpec → List Entry
  | .statement text => [.of "statement" (.ofText text)]
  | .verbatim text => [.of "verbatim" (.ofText text)]
  | .scope header close nodes =>
    .of "scope" (.ofText header) ::
      (Entry.ofOption "close" close .ofText ++ [.of "nodes" (.ofItems (NodeSpec.toItems nodes))])

def NodeSpec.toItems : List NodeSpec → List Item
  | [] => []
  | node :: nodes => .ofEntries node.toEntries :: NodeSpec.toItems nodes

end

def BlockSpec.toEntries (spec : BlockSpec) : List Entry :=
  Entry.ofOption "description" spec.description .ofText ++
    [.of "nodes" (.ofItems (NodeSpec.toItems spec.nodes))]

/-- **A document for a manifest**, in which no field is left out. -/
def Manifest.toTable (manifest : Manifest) : Table where
  form := .headed
  entries :=
    [.of "settings" (.ofEntries manifest.settings.toEntries),
     .of "blocks" (.ofEntries (manifest.blocks.entries.map fun block =>
       .of block.1 (.ofEntries block.2.toEntries)))]

theorem Settings.fills_toEntries (settings : Settings) :
    Fills settings.layout settings.toEntries := by
  refine Fills.cons_ofOption Item.isText_ofText (Fills.cons_ofOption Item.isText_ofText
    (Fills.cons_ofOption Item.isIndent_ofIndent ?_))
  exact Fills.cons_of ⟨Toml.noPlace, rfl⟩ Fills.nil

mutual

theorem NodeSpec.fills_toEntries : ∀ node : NodeSpec, Fills node.layout node.toEntries
  | .statement text => Fills.cons_of (Item.isText_ofText text) Fills.nil
  | .verbatim text => Fills.cons_of (Item.isText_ofText text) Fills.nil
  | .scope header close nodes => by
      refine Fills.cons_of (Item.isText_ofText header) (Fills.cons_ofOption Item.isText_ofText ?_)
      exact Fills.cons_of (Item.isArrayOf_ofItems (NodeSpec.areWrittenAs_toItems nodes)) Fills.nil

theorem NodeSpec.areWrittenAs_toItems :
    ∀ nodes : List NodeSpec, NodeSpec.AreWrittenAs nodes (NodeSpec.toItems nodes)
  | [] => trivial
  | node :: nodes =>
      ⟨Item.isTableOf_ofEntries node.fills_toEntries, NodeSpec.areWrittenAs_toItems nodes⟩

end

theorem BlockSpec.fills_toEntries (spec : BlockSpec) : Fills spec.layout spec.toEntries := by
  refine Fills.cons_ofOption Item.isText_ofText ?_
  exact Fills.cons_of (Item.isArrayOf_ofItems (NodeSpec.areWrittenAs_toItems spec.nodes)) Fills.nil

/-- **Every manifest stands in its document.** -/
theorem Manifest.isWrittenAs_toTable (manifest : Manifest) :
    manifest.IsWrittenAs manifest.toTable := by
  have blocks : List.Forall₂ BlockSpec.IsWrittenAs manifest.blocks.entries
      (manifest.blocks.entries.map fun block =>
        Entry.of block.1 (.ofEntries block.2.toEntries)) := by
    rw [List.forall₂_map_right_iff, List.forall₂_same]
    intro block _
    exact ⟨rfl, Item.isTableOf_ofEntries block.2.fills_toEntries⟩
  exact Fills.cons_of (Item.isTableOf_ofEntries manifest.settings.fills_toEntries)
    (Fills.cons_of (Item.isTableOf_ofEntries blocks) Fills.nil)

end CodeBlocks
