/-
**Outcomes that a complaint decides.**

A function with failures asks one question after the other, and the first answer that is wrong is
its failure.  Here that is said of an outcome without the function: it is *decided* by an optional
complaint.  If there is one, it is the failure; if there is none, a value comes out that is right.
Complaints of consecutive steps combine as the first of them, so the complaint of a whole traversal
is the first one along a list.

Main definitions:

* `CodeBlocks.Decided` — an outcome is decided by a complaint.

Main results:

* `CodeBlocks.Decided.bind` — **consecutive steps**;
* `CodeBlocks.Decided.ok_iff`, `CodeBlocks.Decided.error_iff` — when a value comes out, and which
  failure;
* `CodeBlocks.mapError_bind` — failures under other names;
* `CodeBlocks.eq_ok_of_toOption` — an outcome that is seen as an option.
-/
import Mathlib.Tactic.Common

set_option relaxedAutoImplicit false
set_option autoImplicit false

namespace CodeBlocks

variable {ε α β : Type}

/-- **An outcome that is decided by a complaint**: it is this failure if there is one, and else a
value that is right. -/
def Decided (complaint : Option ε) (right : α → Prop) (outcome : Except ε α) : Prop :=
  match complaint with
  | some fault => outcome = .error fault
  | none => ∃ value, outcome = .ok value ∧ right value

theorem Decided.ok {value : α} {right : α → Prop} (holds : right value) :
    Decided (none : Option ε) right (.ok value) :=
  ⟨value, rfl, holds⟩

theorem Decided.error (fault : ε) (right : α → Prop) :
    Decided (some fault) right (.error fault) := rfl

/-- **Consecutive steps**: the first complaint counts. -/
theorem Decided.bind {outcome : Except ε α} {complaint other : Option ε} {right : α → Prop}
    {next : α → Except ε β} {good : β → Prop} (first : Decided complaint right outcome)
    (second : ∀ value, right value → Decided other good (next value)) :
    Decided (complaint.or other) good (outcome >>= next) := by
  cases complaint with
  | some fault =>
      have failed : outcome = .error fault := first
      rw [failed]
      exact rfl
  | none =>
      obtain ⟨value, rfl, holds⟩ := first
      exact second value holds

theorem Decided.imp {outcome : Except ε α} {complaint : Option ε} {right good : α → Prop}
    (decided : Decided complaint right outcome) (weaker : ∀ value, right value → good value) :
    Decided complaint good outcome := by
  cases complaint with
  | some fault => exact decided
  | none =>
      obtain ⟨value, came, holds⟩ := decided
      exact ⟨value, came, weaker value holds⟩

theorem Decided.map {outcome : Except ε α} {complaint : Option ε} {right : α → Prop}
    {build : α → β} {good : β → Prop} (first : Decided complaint right outcome)
    (keeps : ∀ value, right value → good (build value)) :
    Decided complaint good (outcome >>= fun value => .ok (build value)) := by
  have second : ∀ value, right value → Decided (none : Option ε) good (.ok (build value)) :=
    fun value holds => Decided.ok (keeps value holds)
  have both := first.bind second
  rwa [Option.or_none] at both

theorem Decided.ok_iff {outcome : Except ε α} {complaint : Option ε} {right : α → Prop}
    (decided : Decided complaint right outcome) :
    (∃ value, outcome = .ok value) ↔ complaint = none := by
  cases complaint with
  | some fault =>
      have failed : outcome = .error fault := decided
      simp [failed]
  | none =>
      obtain ⟨value, rfl, _⟩ := decided
      simp

theorem Decided.right_of_ok {outcome : Except ε α} {complaint : Option ε} {right : α → Prop}
    (decided : Decided complaint right outcome) {value : α} (came : outcome = .ok value) :
    right value := by
  have none := decided.ok_iff.1 ⟨value, came⟩
  subst none
  obtain ⟨other, found, holds⟩ := decided
  rw [came] at found
  rwa [Except.ok.inj found]

theorem Decided.error_iff {outcome : Except ε α} {complaint : Option ε} {right : α → Prop}
    (decided : Decided complaint right outcome) (fault : ε) :
    outcome = .error fault ↔ complaint = some fault := by
  cases complaint with
  | some other =>
      have failed : outcome = .error other := decided
      simp [failed]
  | none =>
      obtain ⟨value, rfl, _⟩ := decided
      simp

/-- Failures of consecutive steps can be translated step by step. -/
theorem mapError_bind {δ : Type} (translate : ε → δ) (outcome : Except ε α)
    (next : α → Except ε β) :
    (outcome >>= next).mapError translate =
      outcome.mapError translate >>= fun value => (next value).mapError translate := by
  cases outcome <;> rfl

theorem mapError_eq_ok_iff {δ : Type} {translate : ε → δ} {outcome : Except ε α} {value : α} :
    outcome.mapError translate = .ok value ↔ outcome = .ok value := by
  cases outcome <;> simp [Except.mapError]

theorem mapError_eq_error_iff {δ : Type} {translate : ε → δ}
    (injective : Function.Injective translate) {outcome : Except ε α} {fault : ε} :
    outcome.mapError translate = .error (translate fault) ↔ outcome = .error fault := by
  cases outcome <;> simp [Except.mapError, injective.eq_iff]

/-- A value that an outcome has as an option came out. -/
theorem eq_ok_of_toOption {outcome : Except ε α} {value : α}
    (some : outcome.toOption = some value) : outcome = .ok value := by
  cases outcome with
  | error fault => cases some
  | ok other => exact congrArg Except.ok (Option.some.inj some)

end CodeBlocks
