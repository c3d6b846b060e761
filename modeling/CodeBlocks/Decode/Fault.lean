/-
**What decoding finds and expects.**

Decoding compares the kind of value that is there with the kind that a field takes.  A fault says
what was found and what was expected, and where.

Main definitions:

* `CodeBlocks.Decode.Found`, `CodeBlocks.Decode.Expected` — the two sides;
* `CodeBlocks.Decode.Record` — a named list of fields;
* `CodeBlocks.Decode.Fault`, `CodeBlocks.Decode.Fault.message` — the ways in which they differ, and
  their words;
* `CodeBlocks.Decode.Failure` — a fault and its place.
-/
import CodeBlocks.Decimal.Layout
import CodeBlocks.Indent
import CodeBlocks.Text.Quoted
import CodeBlocks.Text.Span

set_option relaxedAutoImplicit false
set_option autoImplicit false

namespace CodeBlocks.Decode

/-! ### Both sides -/

/-- **The value that is there**, as far as it matters to a field that takes another kind. -/
inductive Found where
  | null
  | boolean (value : Bool)
  /-- An integer of at most 64 bits, with or without a sign. -/
  | integer (value : Int)
  /-- An integer of at most 128 bits that is none of 64. -/
  | wideInteger (value : Int)
  | floating (digits : String)
  | text (value : String)
  | sequence
  | mapping
deriving DecidableEq, Repr

/-- A named list of fields. -/
structure Record where
  name : String
  fields : List String
deriving DecidableEq, Repr

/-- **The kind of value that a field takes.** -/
inductive Expected where
  | text
  | count
  | indent
  | sequence
  | mapping
  | record (record : Record)
deriving DecidableEq, Repr

/-- **A difference between the two.** -/
inductive Fault where
  | invalidType (found : Found) (expected : Expected)
  | invalidValue (found : Found) (expected : Expected)
  | invalidLength (length : Nat) (record : Record)
  | unknownField (name : String) (record : Record)
  /-- An integer of more than 128 bits, or one that is malformed. -/
  | integerOverflow
  /-- A finite number beyond the largest one of binary64. -/
  | floatOverflow
deriving DecidableEq, Repr

/-- **A fault and its place.** -/
structure Failure where
  fault : Fault
  span : Text.Span
deriving DecidableEq, Repr

/-! ### The 64 and 128 bit ranges -/

def fits64 (n : Int) : Bool := -Int.pow 2 63 ≤ n && n < Int.pow 2 64

def fitsSigned128 (n : Int) : Bool := -Int.pow 2 127 ≤ n && n < Int.pow 2 127

def fits128 (n : Int) : Bool := -Int.pow 2 127 ≤ n && n < Int.pow 2 128

def Found.ofInteger (n : Int) : Except Fault Found :=
  if fits64 n then .ok (.integer n)
  else if fits128 n then .ok (.wideInteger n)
  else .error .integerOverflow

/-- A floating point literal, unless it is too large. -/
def Found.ofFloat (literal : Decimal.Literal) : Except Fault Found :=
  match literal.text? with
  | some digits => .ok (.floating digits)
  | none => .error .floatOverflow

/-- A binary64 value that is given by itself and not in a document; its text is compact. -/
def Found.ofBinary (negative : Bool) (value : Decimal.Binary) : Found :=
  .floating (Decimal.Layout.compact.text negative value)

/-! ### Words -/

def Found.words : Found → String
  | null => "null"
  | boolean value => s!"boolean `{value}`"
  | integer value => s!"integer `{value}`"
  | wideInteger value =>
    s!"integer `{value}` as " ++ (if fitsSigned128 value then "i128" else "u128")
  | floating digits => s!"floating point `{digits}`"
  | text value => s!"string {Text.quoted value}"
  | sequence => "sequence"
  | mapping => "map"

def Record.words (record : Record) : String := s!"struct {record.name}"

def Expected.words : Expected → String
  | text => "a string"
  | count => "usize"
  | indent => s!"a number of spaces between 1 and {Indent.widest} or \"tab\""
  | sequence => "a sequence"
  | mapping => "a map"
  | record r => r.words

def Record.alternatives (record : Record) : String :=
  match record.fields.map fun field => s!"`{field}`" with
  | [] => "there are no fields"
  | [one] => s!"expected {one}"
  | [one, other] => s!"expected {one} or {other}"
  | several => "expected one of " ++ ", ".intercalate several

/-- **The words for a fault.** -/
def Fault.message : Fault → String
  | invalidType found expected => s!"invalid type: {found.words}, expected {expected.words}"
  | invalidValue found expected => s!"invalid value: {found.words}, expected {expected.words}"
  | invalidLength length record =>
    s!"invalid length {length}, expected {record.words} with {record.fields.length} elements"
  | unknownField name record => s!"unknown field `{name}`, {record.alternatives}"
  | integerOverflow => "integer number overflowed"
  | floatOverflow => "floating-point number overflowed"

end CodeBlocks.Decode
