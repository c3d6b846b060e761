/-
**Reading a draft from a document.**

Each field takes one kind of value.  A record is a table of its fields, or an array that lists them
in order.  The entries are read in the order of the document, and the first one that does not fit
is the failure.

Main definitions:

* `CodeBlocks.Toml.Item.found` — an item as decoding sees it; a date or time counts as a mapping;
* `CodeBlocks.Indent.ofFound` — the styles: a small number of spaces, or the word `tab`;
* `CodeBlocks.Settings.ofItem`, `CodeBlocks.NodeDraft.ofItem`, `CodeBlocks.BlockDraft.ofItem` — the
  records;
* `CodeBlocks.Draft.ofTable` — **the draft of a document**.
-/
import CodeBlocks.Decode.Fault
import CodeBlocks.Manifest.Draft
import CodeBlocks.Toml.Item

set_option relaxedAutoImplicit false
set_option autoImplicit false

namespace CodeBlocks

open Decode (Failure Found Expected Record)
open Text (Span)
open Toml (Entry Item Table)

/-! ### Plain values -/

def Decode.Fault.at {α : Type} (fault : Decode.Fault) (span : Span) : Except Failure α :=
  .error ⟨fault, span⟩

/-- **An item as decoding sees it.** -/
def Toml.Item.found : Item → Except Decode.Fault Found
  | .scalar (.text value) _ => .ok (.text value)
  | .scalar (.integer value) _ => Found.ofInteger value
  | .scalar .malformedInteger _ => .error .integerOverflow
  | .scalar (.float value) _ => Found.ofFloat value
  | .scalar (.boolean value) _ => .ok (.boolean value)
  | .scalar (.dateTime _) _ => .ok .mapping
  | .array _ _ _ => .ok .sequence
  | .table _ _ => .ok .mapping

/-- The failure of an item that is of another kind than expected. -/
def Toml.Item.refuse {α : Type} (item : Item) (expected : Expected) : Except Failure α :=
  match item.found with
  | .ok found => (Decode.Fault.invalidType found expected).at item.span
  | .error fault => fault.at item.span

def textOf : Item → Except Failure String
  | .scalar (.text value) _ => .ok value
  | item => item.refuse .text

/-- A count: a natural number of at most 64 bits. -/
def countOfFound : Found → Except Decode.Fault Nat
  | .integer value =>
    if 0 ≤ value then .ok value.toNat else .error (.invalidValue (.integer value) .count)
  | found => .error (.invalidType found .count)

/-- **An indentation style**: a number of spaces from one to the widest, or the word `tab` in any
mix of letter cases. -/
def Indent.ofFound : Found → Except Decode.Fault Indent
  | .integer value =>
    if 1 ≤ value && value ≤ Indent.widest then .ok (.spaces value.toNat)
    else .error (.invalidValue (.integer value) .indent)
  | .text value =>
    if value.toLower = "tab" then .ok .tab else .error (.invalidValue (.text value) .indent)
  | found => .error (.invalidType found .indent)

/-- An item, read through what decoding sees of it. -/
def Toml.Item.read {α : Type} (item : Item) (reader : Found → Except Decode.Fault α) :
    Except Failure α :=
  match item.found.bind reader with
  | .ok value => .ok value
  | .error fault => fault.at item.span

/-! ### Records -/

def Settings.record : Record := ⟨"Settings", ["dialect", "separator", "indent", "base_indent"]⟩

def BlockDraft.record : Record := ⟨"RawBlock", ["description", "nodes"]⟩

def NodeDraft.record : Record :=
  ⟨"RawNode", ["statement", "scope", "verbatim", "close", "nodes"]⟩

def Draft.record : Record := ⟨"RawManifest", ["settings", "blocks"]⟩

/-- The one field of a date or time, when it is seen as a mapping. -/
def dateTimeField : String := "$__toml_private_datetime"

def Toml.Item.refuseRecord {α : Type} (item : Item) (record : Record) : Except Failure α :=
  match item with
  | .scalar (.dateTime _) span => (Decode.Fault.unknownField dateTimeField record).at span
  | item => item.refuse (.record record)

/-- The element of an array that stands for a field which must be there. -/
def element (items : List Item) (index : Nat) (record : Record) (span : Span) :
    Except Failure Item :=
  match items[index]? with
  | some item => .ok item
  | none => (Decode.Fault.invalidLength index record).at span

/-! ### Settings -/

def Settings.addEntry (settings : Settings) (entry : Entry) : Except Failure Settings :=
  match entry.key.name with
  | "dialect" => return { settings with dialect := some (← textOf entry.item) }
  | "separator" => return { settings with separator := some (← textOf entry.item) }
  | "indent" => return { settings with indent := some (← entry.item.read Indent.ofFound) }
  | "base_indent" => return { settings with baseIndent := ← entry.item.read countOfFound }
  | name => (Decode.Fault.unknownField name Settings.record).at entry.key.span

/-- **The settings of an item.**  In an array the base level may be left out. -/
def Settings.ofItem : Item → Except Failure Settings
  | .table table _ => table.entries.foldlM Settings.addEntry {}
  | .array items _ span => do
    let dialect ← textOf (← element items 0 Settings.record span)
    let separator ← textOf (← element items 1 Settings.record span)
    let indent ← (← element items 2 Settings.record span).read Indent.ofFound
    let baseIndent ← match items[3]? with
      | some item => item.read countOfFound
      | none => pure 0
    return ⟨some dialect, some separator, some indent, baseIndent⟩
  | item => item.refuseRecord Settings.record

/-! ### Nodes -/

mutual

/-- **The draft of a node.** -/
def NodeDraft.ofItem : Item → Except Failure NodeDraft
  | .table ⟨_, entries⟩ _ => NodeDraft.ofEntries {} entries
  | .array items _ span => NodeDraft.ofElements span [] items
  | item => item.refuseRecord NodeDraft.record

def NodeDraft.ofEntries (draft : NodeDraft) : List Entry → Except Failure NodeDraft
  | [] => .ok draft
  | ⟨key, item⟩ :: entries =>
    match key.name with
    | "statement" => do
      let text ← textOf item
      NodeDraft.ofEntries { draft with statement := some text } entries
    | "scope" => do
      let text ← textOf item
      NodeDraft.ofEntries { draft with scope := some text } entries
    | "verbatim" => do
      let text ← textOf item
      NodeDraft.ofEntries { draft with verbatim := some text } entries
    | "close" => do
      let text ← textOf item
      NodeDraft.ofEntries { draft with close := some text } entries
    | "nodes" => do
      let nodes ← NodeDraft.listOfItem item
      NodeDraft.ofEntries { draft with nodes := some nodes } entries
    | name => (Decode.Fault.unknownField name NodeDraft.record).at key.span

/-- The draft of a node whose first fields are these texts, and whose others are the elements. -/
def NodeDraft.ofElements (span : Span) (texts : List String) :
    List Item → Except Failure NodeDraft
  | [] => (Decode.Fault.invalidLength texts.length NodeDraft.record).at span
  | item :: items =>
    match texts with
    | [statement, scope, verbatim, close] => do
      let nodes ← NodeDraft.listOfItem item
      return ⟨some statement, some scope, some verbatim, some close, some nodes⟩
    | texts => do
      let text ← textOf item
      NodeDraft.ofElements span (texts ++ [text]) items

def NodeDraft.listOfItem : Item → Except Failure (List NodeDraft)
  | .array items _ _ => NodeDraft.listOfItems items
  | item => item.refuse .sequence

def NodeDraft.listOfItems : List Item → Except Failure (List NodeDraft)
  | [] => .ok []
  | item :: items => do
    let first ← NodeDraft.ofItem item
    let others ← NodeDraft.listOfItems items
    return first :: others

end

/-! ### Blocks -/

def BlockDraft.addEntry (draft : BlockDraft) (entry : Entry) : Except Failure BlockDraft :=
  match entry.key.name with
  | "description" => return { draft with description := some (← textOf entry.item) }
  | "nodes" => return { draft with nodes := ← NodeDraft.listOfItem entry.item }
  | name => (Decode.Fault.unknownField name BlockDraft.record).at entry.key.span

/-- **The draft of a block.**  In an array the nodes may be left out. -/
def BlockDraft.ofItem : Item → Except Failure BlockDraft
  | .table table _ => table.entries.foldlM BlockDraft.addEntry {}
  | .array items _ span => do
    let description ← textOf (← element items 0 BlockDraft.record span)
    let nodes ← match items[1]? with
      | some item => NodeDraft.listOfItem item
      | none => pure []
    return ⟨some description, nodes⟩
  | item => item.refuseRecord BlockDraft.record

def blockDraftsOf : Item → Except Failure (Catalog BlockDraft)
  | .table table _ => table.entries.foldlM
      (fun catalog entry => return catalog.insert entry.key.name (← BlockDraft.ofItem entry.item))
      .empty
  | .scalar (.dateTime value) span =>
    (Decode.Fault.invalidType (.text value.text) (.record BlockDraft.record)).at span
  | item => item.refuse .mapping

/-! ### Manifests -/

def Draft.addEntry (draft : Draft) (entry : Entry) : Except Failure Draft :=
  match entry.key.name with
  | "settings" => return { draft with settings := ← Settings.ofItem entry.item }
  | "blocks" => return { draft with blocks := ← blockDraftsOf entry.item }
  | name => (Decode.Fault.unknownField name Draft.record).at entry.key.span

/-- **The draft of a document.** -/
def Draft.ofTable (table : Table) : Except Failure Draft :=
  table.entries.foldlM Draft.addEntry {}

end CodeBlocks
