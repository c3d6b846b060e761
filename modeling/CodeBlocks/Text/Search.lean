/-
**Searching a text.**

Main definitions:

* `CodeBlocks.Text.indexOf?` — where a pattern first occurs, in bytes from the start.

Main results:

* `CodeBlocks.Text.indexOf?_sound` — at the place that is found, the pattern stands;
* `CodeBlocks.Text.indexOf?_le` — and nowhere before it;
* `CodeBlocks.Text.indexOf?_eq_none_iff` — nothing is found exactly if the pattern is nowhere.
-/
import CodeBlocks.Text.Span

set_option relaxedAutoImplicit false
set_option autoImplicit false

namespace CodeBlocks.Text

/-- **Where a pattern first occurs**, in bytes from the start. -/
def indexOf? (pattern : List Char) : List Char → Option Nat
  | [] => if pattern.isEmpty then some 0 else none
  | c :: cs =>
    if pattern.isPrefixOf (c :: cs) then some 0
    else (indexOf? pattern cs).map (c.utf8Size + ·)

/-- At the place that is found, the pattern stands. -/
theorem indexOf?_sound {pattern text : List Char} {place : Nat}
    (h : indexOf? pattern text = some place) :
    ∃ front back, text = front ++ pattern ++ back ∧ byteCount front = place := by
  induction text generalizing place with
  | nil =>
    rw [indexOf?] at h
    split at h
    · rename_i empty
      cases h
      exact ⟨[], [], by simpa using empty, rfl⟩
    · cases h
  | cons c cs ih =>
    rw [indexOf?] at h
    split at h
    · rename_i here
      cases h
      obtain ⟨back, hb⟩ := List.isPrefixOf_iff_prefix.1 here
      exact ⟨[], back, by simpa using hb.symm, rfl⟩
    · obtain ⟨later, hl, rfl⟩ := Option.map_eq_some_iff.1 h
      obtain ⟨front, back, rfl, rfl⟩ := ih hl
      exact ⟨c :: front, back, by simp, by simp⟩

/-- The pattern stands nowhere before the place that is found. -/
theorem indexOf?_le {pattern text front back : List Char} {place : Nat}
    (h : indexOf? pattern text = some place) (stands : text = front ++ pattern ++ back) :
    place ≤ byteCount front := by
  induction text generalizing front place with
  | nil =>
    rw [indexOf?] at h
    split at h
    · cases h
      exact Nat.zero_le _
    · cases h
  | cons c cs ih =>
    rw [indexOf?] at h
    split at h
    · cases h
      exact Nat.zero_le _
    · rename_i notHere
      obtain ⟨later, hl, rfl⟩ := Option.map_eq_some_iff.1 h
      cases front with
      | nil =>
        refine absurd (List.isPrefixOf_iff_prefix.2 ?_) notHere
        exact ⟨back, by simpa using stands.symm⟩
      | cons d front =>
        obtain ⟨rfl, rest⟩ := List.cons.inj stands
        have before : later ≤ byteCount front := ih hl rest
        rw [byteCount_cons]
        omega

/-- Nothing is found exactly if the pattern is nowhere. -/
theorem indexOf?_eq_none_iff {pattern text : List Char} :
    indexOf? pattern text = none ↔ ¬ pattern <:+: text := by
  induction text with
  | nil => simp [indexOf?]
  | cons c cs ih =>
    rw [indexOf?, List.infix_cons_iff]
    split
    · rename_i here
      simp [List.isPrefixOf_iff_prefix.1 here]
    · rename_i here
      have : ¬ pattern <+: c :: cs := fun hp => here (List.isPrefixOf_iff_prefix.2 hp)
      simp [this, ih]

end CodeBlocks.Text
