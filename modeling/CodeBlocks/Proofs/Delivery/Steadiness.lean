/-
**Steady writers.**

A steady writer does not fail: it takes something of every offer, or asks for the offer again, and
it can always be flushed.  What it has taken is told by its state.  Whatever is delivered to it
arrives as a whole and in order, behind what it has taken before.

Main definitions:

* `CodeBlocks.Writer.IsSteady` — a writer that does not fail.

Main results:

* `CodeBlocks.Writer.IsSteady.writeAll`, `CodeBlocks.Writer.IsSteady.deliver` — **what is delivered
  to a steady writer arrives**;
* `CodeBlocks.Writer.isSteady_collecting` — the collecting writer is steady.
-/
import CodeBlocks.Writer
import Mathlib.Tactic.Common

set_option relaxedAutoImplicit false
set_option autoImplicit false

namespace CodeBlocks.Writer

variable {σ : Type} {writer : Writer σ} {taken : σ → List UInt8}

/-- **A steady writer**: of every offer it takes something, or it is interrupted and takes nothing;
no flush fails. -/
structure IsSteady (writer : Writer σ) (taken : σ → List UInt8) : Prop where
  offer : ∀ state bytes, bytes ≠ [] →
    (∃ count next, writer.offer state bytes = .took (count + 1) next ∧
        taken next = taken state ++ bytes.take (count + 1)) ∨
      ∃ next, writer.offer state bytes = .refused .interrupted next ∧ taken next = taken state
  flush : ∀ state, ∃ next, writer.flush state = (.ok (), next) ∧ taken next = taken state

/-- **What is written to a steady writer arrives**, in order. -/
theorem IsSteady.writeAll (steady : writer.IsSteady taken) (state : σ) (bytes : List UInt8) :
    ∃ next, writer.writeAll state bytes = (.ok (), next) ∧ taken next = taken state ++ bytes := by
  fun_induction Writer.writeAll writer state bytes with
  | case1 state => exact ⟨state, rfl, (List.append_nil _).symm⟩
  | case2 state byte bytes next took =>
      rcases steady.offer state (byte :: bytes) nofun with ⟨_, _, other, _⟩ | ⟨_, other, _⟩ <;>
        rw [took] at other <;> cases other
  | case3 state byte bytes count next took ih =>
      rcases steady.offer state (byte :: bytes) nofun with ⟨_, _, same, here⟩ | ⟨_, other, _⟩
      · rw [took] at same
        obtain ⟨size, rfl⟩ := Answer.took.inj same
        obtain rfl := Nat.succ.inj size
        obtain ⟨final, rest, there⟩ := ih
        refine ⟨final, rest, ?_⟩
        rw [there, here]
        simp
      · rw [took] at other
        cases other
  | case4 state byte bytes next interrupted ih =>
      rcases steady.offer state (byte :: bytes) nofun with ⟨_, _, other, _⟩ | ⟨_, same, here⟩
      · rw [interrupted] at other
        cases other
      · rw [interrupted] at same
        obtain ⟨_, rfl⟩ := Answer.refused.inj same
        rw [← here]
        exact ih
  | case5 state byte bytes fault next failing refused =>
      rcases steady.offer state (byte :: bytes) nofun with ⟨_, _, other, _⟩ | ⟨_, same, _⟩
      · rw [refused] at other
        cases other
      · rw [refused] at same
        exact (failing (Answer.refused.inj same).1).elim

/-- **What is delivered to a steady writer arrives**, and the delivery goes through. -/
theorem IsSteady.deliver (steady : writer.IsSteady taken) (state : σ) (text : String) :
    ∃ next, writer.deliver state text = (.ok (), next) ∧
      taken next = taken state ++ bytesOf text := by
  obtain ⟨next, wrote, arrived⟩ := steady.writeAll state (bytesOf text)
  obtain ⟨final, flushed, same⟩ := steady.flush next
  refine ⟨final, ?_, same.trans arrived⟩
  have through : writer.writeAndFlush state (bytesOf text) = (.ok (), final) := by
    unfold writeAndFlush
    rw [wrote]
    exact flushed
  unfold Writer.deliver
  rw [through]
  rfl

theorem data_foldl_push (bytes : List UInt8) (taken : ByteArray) :
    (bytes.foldl ByteArray.push taken).data.toList = taken.data.toList ++ bytes := by
  induction bytes generalizing taken with
  | nil => exact (List.append_nil _).symm
  | cons byte bytes ih =>
      rw [List.foldl_cons, ih, ByteArray.data_push, Array.toList_push, List.append_assoc]
      rfl

/-- The collecting writer is steady. -/
theorem isSteady_collecting : collecting.IsSteady fun taken => taken.data.toList where
  offer state bytes some := by
    cases bytes with
    | nil => exact absurd rfl some
    | cons byte bytes =>
        refine Or.inl ⟨bytes.length, _, rfl, ?_⟩
        rw [data_foldl_push, List.take_of_length_le (by simp)]
  flush state := ⟨state, rfl, rfl⟩

end CodeBlocks.Writer
