/-
**Where levels and texts end.**

A level is a number of the machine, and so is the size of a text.  Levels on their own have no end,
and neither have the texts in front of lines (`CodeBlocks.Indent.lead`); a machine counts only so
far and holds only so much.  On 64 bits the last level is `2 ^ 64 - 1`, and a text is shorter than
`2 ^ 63` bytes.  A text that is too large stops a program.  A level that is too large stops it as
well if the program was built to check for that, and starts again from zero otherwise.

Only the text in front of a line is measured, since it alone is as large as a level makes it.  All
else in a text was in memory before; that there is memory for all of it together is taken for
granted.

Main definitions:

* `CodeBlocks.Machine` — which levels are counted, which sizes are held, and whether levels are
  checked;
* `CodeBlocks.Machine.deeper`, `CodeBlocks.Machine.lead` — the next level, and the text in front of
  a line, as far as the machine goes;
* `CodeBlocks.Machine.unbounded`, `CodeBlocks.Machine.sixtyFour` — no bounds at all, and those of 64
  bits.
-/
import CodeBlocks.Node

set_option relaxedAutoImplicit false
set_option autoImplicit false

namespace CodeBlocks

/-- **How far a machine goes.** -/
structure Machine where
  counts : Nat → Bool
  holds : Nat → Bool
  /-- Whether a level that is not counted stops the program. -/
  checks : Bool

/-- **Why there is no text**: the machine does not go that far, or a leaf has none. -/
inductive RenderFault where
  | overflow
  | failed (error : RenderError)
deriving DecidableEq, Repr

namespace Machine

def deeper (machine : Machine) (level : Nat) : Except RenderFault Nat :=
  if machine.counts (level + 1) then .ok (level + 1)
  else if machine.checks then .error .overflow
  else .ok 0

def lead (machine : Machine) (style : Indent) (level : Nat) : Except RenderFault String :=
  if machine.holds (style.width * level) then .ok (style.lead level) else .error .overflow

def unbounded : Machine := ⟨fun _ => true, fun _ => true, true⟩

/-- **A machine of 64 bits.**  Every level fits into a word, and a text is smaller than half of what
a word can count. -/
def sixtyFour (checks : Bool) : Machine :=
  ⟨fun level => level < Nat.pow 2 64, fun size => size < Nat.pow 2 63, checks⟩

variable {machine : Machine} {style : Indent} {level : Nat}

theorem deeper_of_counts (counts : machine.counts (level + 1)) :
    machine.deeper level = .ok (level + 1) := if_pos counts

theorem lead_of_holds (holds : machine.holds (style.width * level)) :
    machine.lead style level = .ok (style.lead level) := if_pos holds

end Machine

end CodeBlocks
