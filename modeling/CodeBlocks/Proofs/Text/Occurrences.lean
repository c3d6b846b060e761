/-
**First occurrences behind other text.**

A search finds the first place at which a pattern stands.  With more text in front, the same place
is found, moved by the length of that text, unless the pattern begins in it: somewhere from one of
its characters on, and perhaps going on behind it.

Main definitions:

* `CodeBlocks.Text.BeginsIn` — a pattern begins in the front of a text;
* `CodeBlocks.Text.Span.moved` — a span further on.

Main results:

* `CodeBlocks.Text.indexOf?_append_of_not_beginsIn` — **what is found behind other text**;
* `CodeBlocks.Text.indexOf?_append_of_beginsIn` — and what is found in front instead;
* `CodeBlocks.Text.beginsIn_line_iff` — a pattern on one line begins in a line that it is part of.
-/
import CodeBlocks.Text.Search
import Mathlib.Tactic.Common

set_option relaxedAutoImplicit false
set_option autoImplicit false

namespace CodeBlocks.Text

variable {pattern front back : List Char}

/-! ### Spans further on -/

/-- The span that lies a number of bytes further on. -/
def Span.moved (distance : Nat) (span : Span) : Span :=
  ⟨distance + span.start, distance + span.stop⟩

theorem Span.moved_ofLength (distance start length : Nat) :
    (Span.ofLength start length).moved distance = Span.ofLength (distance + start) length := by
  rw [Span.ofLength, Span.moved, Span.ofLength, Nat.add_assoc]

/-! ### Beginning in front -/

/-- **A pattern begins in the front of a text**: it stands there from one of the characters of the
front on.  It need not end in the front. -/
def BeginsIn (pattern front back : List Char) : Prop :=
  ∃ before after, front = before ++ after ∧ after ≠ [] ∧ pattern <+: after ++ back

theorem not_beginsIn_nil : ¬ BeginsIn pattern [] back := by
  rintro ⟨before, after, whole, some, _⟩
  exact some (List.append_eq_nil_iff.1 whole.symm).2

theorem beginsIn_cons_iff {c : Char} :
    BeginsIn pattern (c :: front) back ↔
      pattern <+: c :: (front ++ back) ∨ BeginsIn pattern front back := by
  constructor
  · rintro ⟨before, after, whole, some, stands⟩
    cases before with
    | nil =>
        obtain rfl : c :: front = after := whole
        exact Or.inl stands
    | cons d before => exact Or.inr ⟨before, after, (List.cons.inj whole).2, some, stands⟩
  · rintro (stands | ⟨before, after, rfl, some, stands⟩)
    · exact ⟨[], c :: front, rfl, List.cons_ne_nil _ _, stands⟩
    · exact ⟨c :: before, after, rfl, some, stands⟩

/-- **A pattern on one line begins in a line that it is part of.**  Behind the line there is no room
for it without the line end. -/
theorem beginsIn_line_iff {line : List Char} (oneLine : '\n' ∉ pattern) :
    BeginsIn pattern (line ++ ['\n']) back ↔ pattern <:+: line := by
  constructor
  · rintro ⟨before, after, whole, some, stands⟩
    obtain ⟨rest, last, rfl⟩ := (List.eq_nil_or_concat after).resolve_left some
    rw [List.concat_eq_append, ← List.append_assoc] at whole
    obtain ⟨rfl, same⟩ := List.append_inj' whole rfl
    obtain rfl : '\n' = last := by simpa using same
    rw [List.concat_eq_append] at stands
    -- Either the pattern ends in the line or the line end is part of it, which cannot be.
    rcases List.prefix_or_prefix_of_prefix stands (List.prefix_append _ _) with short | long
    · rcases List.prefix_concat_iff.1 short with rfl | inside
      · simp at oneLine
      · exact inside.isInfix.trans (List.suffix_append before rest).isInfix
    · exact absurd (long.subset (by simp)) oneLine
  · rintro ⟨before, after, rfl⟩
    refine ⟨before, pattern ++ after ++ ['\n'], by simp, by simp, ?_⟩
    simp

/-! ### Searching -/

/-- **A pattern that does not begin in front** is found where it is found without the front. -/
theorem indexOf?_append_of_not_beginsIn (behind : ¬ BeginsIn pattern front back) :
    indexOf? pattern (front ++ back) = (indexOf? pattern back).map (byteCount front + ·) := by
  induction front with
  | nil =>
      rw [List.nil_append, byteCount_nil]
      simp
  | cons c front ih =>
      rw [beginsIn_cons_iff, not_or] at behind
      obtain ⟨here, further⟩ := behind
      have no : pattern.isPrefixOf (c :: (front ++ back)) = false := by
        rwa [← Bool.not_eq_true, List.isPrefixOf_iff_prefix]
      rw [List.cons_append, indexOf?, no, ih further, Option.map_map]
      simp [Function.comp_def, Nat.add_assoc]

/-- **A pattern that begins in front** is found there. -/
theorem indexOf?_append_of_beginsIn (begins : BeginsIn pattern front back) :
    ∃ place < byteCount front, indexOf? pattern (front ++ back) = some place := by
  induction front with
  | nil => exact absurd begins not_beginsIn_nil
  | cons c front ih =>
      have size := c.utf8Size_pos
      rw [List.cons_append, indexOf?]
      by_cases here : pattern.isPrefixOf (c :: (front ++ back))
      · rw [if_pos here]
        exact ⟨0, by rw [byteCount_cons]; omega, rfl⟩
      · have further : BeginsIn pattern front back :=
          (beginsIn_cons_iff.1 begins).resolve_left fun stands =>
            here (List.isPrefixOf_iff_prefix.2 stands)
        obtain ⟨place, near, found⟩ := ih further
        rw [if_neg here, found]
        exact ⟨c.utf8Size + place, by rw [byteCount_cons]; omega, rfl⟩

end CodeBlocks.Text
