/-
**Places in a text.**

A span is a range of bytes of a text in UTF-8, from its first byte to the one after its last.

Main definitions:

* `CodeBlocks.Text.Span` — a range of bytes;
* `CodeBlocks.Text.Span.to` — the range from one span to the end of another;
* `CodeBlocks.Text.byteCount` — the length of characters in bytes.

Main results:

* `CodeBlocks.Text.byteCount_append` — lengths add up.
-/

set_option relaxedAutoImplicit false
set_option autoImplicit false

namespace CodeBlocks.Text

/-- **A range of bytes**: from `start` up to, and without, `stop`. -/
structure Span where
  start : Nat
  stop : Nat
deriving DecidableEq, Repr

def Span.length (span : Span) : Nat := span.stop - span.start

def Span.to (first last : Span) : Span := ⟨first.start, last.stop⟩

def Span.ofLength (start length : Nat) : Span := ⟨start, start + length⟩

/-- **The length of characters in bytes** of UTF-8. -/
def byteCount (chars : List Char) : Nat := chars.foldr (fun c count => c.utf8Size + count) 0

@[simp] theorem byteCount_nil : byteCount [] = 0 := rfl

@[simp] theorem byteCount_cons (c : Char) (cs : List Char) :
    byteCount (c :: cs) = c.utf8Size + byteCount cs := rfl

@[simp] theorem byteCount_append (cs ds : List Char) :
    byteCount (cs ++ ds) = byteCount cs + byteCount ds := by
  induction cs with
  | nil => simp
  | cons c cs ih => simp [ih, Nat.add_assoc]

end CodeBlocks.Text
