/-
**Making tables.**

A document is written line by line, and each line adds to a table that earlier lines may have begun.
Dotted keys and headers name the tables on their way; which of them they may enter depends on how
those came to be.  A table that a header only implied may still get a header of its own, and then
stands at the end of its parent.

Main definitions:

* `CodeBlocks.Toml.Pair`, `CodeBlocks.Toml.Header`, `CodeBlocks.Toml.Section` — what lines say;
* `CodeBlocks.Toml.Table.descend` — acting on the table at the end of a path;
* `CodeBlocks.Toml.Table.insert` — adding a pair;
* `CodeBlocks.Toml.Table.addSection` — adding a header with its pairs.
-/
import CodeBlocks.Toml.Fault
import CodeBlocks.Toml.Item

set_option relaxedAutoImplicit false
set_option autoImplicit false

namespace CodeBlocks.Toml

open Text (Span)

/-! ### What lines say -/

/-- **A key with its value.**  The path holds the parts of a dotted key in front of the last. -/
structure Pair where
  path : List Key
  key : Key
  item : Item

/-- **A header** between brackets, or between double brackets for an element of an array. -/
structure Header where
  path : List Key
  key : Key
  element : Bool
  span : Span

structure Section where
  header : Header
  pairs : List Pair

/-! ### Ways into a table -/

/-- Whether a path belongs to a dotted key or to a header. -/
inductive PathKind where
  | dottedKey
  | header
deriving DecidableEq, Repr

/-- The form of a table that a path of the kind makes on its way. -/
def PathKind.made : PathKind → TableForm
  | dottedKey => .dotted
  | header => .implied

/-- **Whether a path of the kind may lead through a table** of the form.  A header may not lead into
a table between braces, and a dotted key in addition not into a table with a header. -/
def PathKind.mayEnter : PathKind → TableForm → Bool
  | _, .inline => false
  | dottedKey, .headed => false
  | _, _ => true

namespace Table

/-! ### Entries -/

def find? (table : Table) (name : String) : Option Entry :=
  table.entries.find? fun entry => entry.key.name = name

def append (table : Table) (entry : Entry) : Table :=
  { table with entries := table.entries ++ [entry] }

def replace (table : Table) (name : String) (item : Item) : Table :=
  { table with
    entries := table.entries.map fun entry =>
      if entry.key.name = name then { entry with item } else entry }

def remove (table : Table) (name : String) : Table :=
  { table with entries := table.entries.filter fun entry => entry.key.name ≠ name }

/-! ### Paths -/

/-- **Acting on the table at the end of a path.**  Tables that are missing on the way are made; an
array of tables is entered through its last element. -/
def descend (kind : PathKind) (act : Table → Except SyntaxFault Table) :
    List Key → Table → Except SyntaxFault Table
  | [], table => act table
  | key :: path, table =>
    match (table.find? key.name).map Entry.item with
    | none => do
      let child ← descend kind act path ⟨kind.made, []⟩
      return table.append ⟨key, .table child key.span⟩
    | some (.table child span) =>
      if kind.mayEnter child.form then do
        let child ← descend kind act path child
        return table.replace key.name (.table child span)
      else .error .duplicateKey
    | some (.array items true span) =>
      match items.getLast? with
      | some (.table child place) => do
        let child ← descend kind act path child
        return table.replace key.name (.array (items.dropLast ++ [.table child place]) true span)
      | _ => .error .cannotExtend
    | some _ => .error .cannotExtend

/-! ### Pairs -/

/-- **The table with a pair more.**  Its key must be free, and a dotted key can only add to a table
that dotted keys made. -/
def insert (table : Table) (pair : Pair) : Except SyntaxFault Table :=
  let add (parent : Table) : Except SyntaxFault Table :=
    if !pair.path.isEmpty && parent.form ≠ .dotted then .error .duplicateKey
    else if (parent.find? pair.key.name).isSome then .error .duplicateKey
    else .ok (parent.append ⟨pair.key, pair.item⟩)
  descend .dottedKey add pair.path table

def insertAll (table : Table) (pairs : List Pair) : Except SyntaxFault Table :=
  pairs.foldlM insert table

/-! ### Sections -/

/-- The table with a further element for the array of tables that the header names. -/
def addElement (table : Table) (header : Header) (element : Table) : Except SyntaxFault Table :=
  let item : Item := .table element header.span
  match (table.find? header.key.name).map Entry.item with
  | none => .ok (table.append ⟨header.key, .array [item] true header.span⟩)
  | some (.array items true span) =>
    .ok (table.replace header.key.name (.array (items ++ [item]) true span))
  | some _ => .error .duplicateKey

/-- The table with a child of its own header.  The child of an implied table keeps what is in it. -/
def addChild (table : Table) (part : Section) : Except SyntaxFault Table :=
  let key := part.header.key
  let place (entries : List Entry) (table : Table) : Except SyntaxFault Table := do
    let child ← insertAll ⟨.headed, entries⟩ part.pairs
    return table.append ⟨key, .table child part.header.span⟩
  match (table.find? key.name).map Entry.item with
  | none => place [] table
  | some (.table ⟨.implied, entries⟩ _) => place entries (table.remove key.name)
  | some _ => .error .duplicateKey

/-- **The table with a section more.** -/
def addSection (table : Table) (part : Section) : Except SyntaxFault Table :=
  let add (parent : Table) : Except SyntaxFault Table :=
    if part.header.element then do
      let element ← insertAll ⟨.headed, []⟩ part.pairs
      parent.addElement part.header element
    else parent.addChild part
  descend .header add part.header.path table

end Table

end CodeBlocks.Toml
