/-
**Indentation of generated lines.**

A line of generated code stands at a *level*, and the text in front of it is the unit of its
indentation style, once per level.  A style is a number of spaces or a tab.

Levels are natural numbers here and have no end.  On a machine a level has to fit into a word and
the text of several levels into memory; where these end is said by `CodeBlocks.Machine`.

Main definitions:

* `CodeBlocks.Indent` — the styles;
* `CodeBlocks.Indent.unit`, `CodeBlocks.Indent.lead` — the text of one level, and of several;
* `CodeBlocks.Indent.describe` — the words for a style in reports.

Main results:

* `CodeBlocks.Indent.lead_add` — levels add up.
-/

set_option relaxedAutoImplicit false
set_option autoImplicit false

namespace CodeBlocks

/-- **An indentation style**: some spaces, or a tab. -/
inductive Indent where
  | spaces (width : Nat)
  | tab
deriving DecidableEq, Repr

namespace Indent

/-! ### The usual styles -/

/-- Four spaces, the style where none is given. -/
def fourSpaces : Indent := spaces 4

def twoSpaces : Indent := spaces 2

/-- The widest style of spaces that a manifest may ask for. -/
def widest : Nat := 8

instance : Inhabited Indent := ⟨fourSpaces⟩

/-! ### The text in front of a line -/

def glyph : Indent → Char
  | spaces _ => ' '
  | tab => '\t'

/-- How often one level repeats it. -/
def width : Indent → Nat
  | spaces n => n
  | tab => 1

/-- **The text in front of a line at a level.** -/
def lead (style : Indent) (level : Nat) : String :=
  String.ofList (List.replicate (style.width * level) style.glyph)

def unit (style : Indent) : String :=
  String.ofList (List.replicate style.width style.glyph)

theorem lead_add (style : Indent) (a b : Nat) :
    style.lead (a + b) = style.lead a ++ style.lead b := by
  apply String.toList_inj.1
  simp [lead, Nat.mul_add, List.replicate_append_replicate]

/-! ### Words -/

def describe : Indent → String
  | spaces 1 => "1 space"
  | spaces n => s!"{n} spaces"
  | tab => "tab"

end Indent

end CodeBlocks
