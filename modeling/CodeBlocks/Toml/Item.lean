/-
**The tree of a TOML document.**

A document is a table.  A table lists its entries in the order in which they were made; an entry is
a key and an item; an item is a scalar, an array or a table, with its place in the text.

Main definitions:

* `CodeBlocks.Toml.Scalar` — strings, numbers, booleans, dates and times;
* `CodeBlocks.Toml.Item`, `CodeBlocks.Toml.Table`, `CodeBlocks.Toml.Entry` — the tree;
* `CodeBlocks.Toml.TableForm` — how a table came to be, on which it depends who may extend it.
-/
import CodeBlocks.Decimal.Literal
import CodeBlocks.Text.Span
import CodeBlocks.Toml.DateTime

set_option relaxedAutoImplicit false
set_option autoImplicit false

namespace CodeBlocks.Toml

open Text (Span)

/-- **A value without parts.** -/
inductive Scalar where
  | text (value : String)
  | integer (value : Int)
  /-- What is written like an integer but has no value.  It fails only when it is read. -/
  | malformedInteger
  | float (value : Decimal.Literal)
  | boolean (value : Bool)
  | dateTime (value : DateTime)
deriving DecidableEq, Repr

structure Key where
  name : String
  span : Span
deriving DecidableEq, Repr

/-- **How a table came to be.** -/
inductive TableForm where
  /-- Under a header of its own; the document itself counts as one. -/
  | headed
  /-- Named on the way by a longer header. -/
  | implied
  /-- Named on the way by a dotted key. -/
  | dotted
  /-- Between braces. -/
  | inline
deriving DecidableEq, Repr

mutual

/-- **A value in a document** and its place.  The elements of an array can be tables that headers
of their own made. -/
inductive Item where
  | scalar (value : Scalar) (span : Span)
  | array (items : List Item) (headed : Bool) (span : Span)
  | table (table : Table) (span : Span)

/-- **A table**: its entries, in the order in which they were made. -/
structure Table where
  form : TableForm
  entries : List Entry

structure Entry where
  key : Key
  item : Item

end

instance : Inhabited Table := ⟨⟨.headed, []⟩⟩

def Item.span : Item → Span
  | scalar _ span => span
  | array _ _ span => span
  | table _ span => span

end CodeBlocks.Toml
