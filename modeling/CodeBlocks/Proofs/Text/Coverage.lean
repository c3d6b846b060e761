/-
**Spans that cover a text.**

A span of a source covers a text if the bytes in it are exactly those of the text, and it neither
starts nor ends inside a character.  A text that stands between two others is covered by the span
from the end of the one to the start of the other, and a span covers one text at most.

Main definitions:

* `CodeBlocks.Text.Span.Covers` — the bytes of a source in a span are a text.

Main results:

* `CodeBlocks.Text.Span.covers_between` — **what stands between two texts is covered**;
* `CodeBlocks.Text.Span.Covers.eq` — a span covers one text at most.
-/
import CodeBlocks.Text.Span
import Mathlib.Tactic.Common

set_option relaxedAutoImplicit false
set_option autoImplicit false

namespace CodeBlocks.Text

/-- The length of a text is that of its characters. -/
theorem byteCount_toList (text : String) : byteCount text.toList = text.utf8ByteSize := by
  rw [← String.size_toByteArray, ← String.utf8Encode_toList]
  induction text.toList with
  | nil => rfl
  | cons c cs ih =>
      rw [byteCount_cons, ih, List.utf8Encode_cons, ByteArray.size_append,
        List.utf8Encode_singleton, List.size_toByteArray, String.length_utf8EncodeChar]

namespace Span

/-- **A span covers a text**: it lies inside the source, it starts and ends between characters, and
the bytes in it are those of the text. -/
structure Covers (span : Span) (source text : String) : Prop where
  stop_le : span.stop ≤ source.utf8ByteSize
  starts : String.Pos.Raw.IsValid source ⟨span.start⟩
  stops : String.Pos.Raw.IsValid source ⟨span.stop⟩
  bytes : source.toUTF8.extract span.start span.stop = text.toUTF8

/-- A span covers one text at most. -/
theorem Covers.eq {span : Span} {source text other : String} (covers : span.Covers source text)
    (coversOther : span.Covers source other) : text = other :=
  String.toByteArray_inj.1 (covers.bytes.symm.trans coversOther.bytes)

/-- A span is as long as the text that it covers. -/
theorem Covers.length_eq {span : Span} {source text : String} (covers : span.Covers source text) :
    span.length = text.utf8ByteSize := by
  have inside : min span.stop source.toUTF8.size = span.stop := Nat.min_eq_left covers.stop_le
  have size := congrArg ByteArray.size covers.bytes
  rw [ByteArray.size_extract, inside] at size
  exact size

/-- **What stands between two texts is covered** by the span from the end of the one to the start of
the other. -/
theorem covers_between (front text back : String) :
    (ofLength front.utf8ByteSize text.utf8ByteSize).Covers (front ++ text ++ back) text := by
  refine ⟨?_, ?_, ?_, ?_⟩
  · simp only [ofLength, String.utf8ByteSize_append]
    omega
  · rw [String.append_assoc]
    exact String.Pos.Raw.isValid_iff_exists_append.2 ⟨front, text ++ back, rfl, rfl⟩
  · refine String.Pos.Raw.isValid_iff_exists_append.2 ⟨front ++ text, back, rfl, ?_⟩
    rw [String.rawEndPos, String.utf8ByteSize_append]
    rfl
  · have behind := ByteArray.extract_append_size_add (a := front.toByteArray)
      (b := (text ++ back).toByteArray) (i := 0) (j := text.utf8ByteSize)
    rw [Nat.add_zero, String.size_toByteArray] at behind
    rw [String.append_assoc, String.toUTF8_eq_toByteArray, String.toByteArray_append, ofLength,
      behind, String.toByteArray_append]
    exact ByteArray.extract_append_eq_left rfl

end Span

end CodeBlocks.Text
