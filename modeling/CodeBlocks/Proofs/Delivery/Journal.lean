/-
**The journal of a delivery.**

What a delivery does to a writer is the sequence of its calls: offers of bytes and flushes.  They
are observed with a writer that passes every call on to another one and keeps a journal.  A
delivery cannot tell the two apart, so the journal is that of the other writer.

The journal has one shape.  As long as bytes are left, all of them are offered.  The offer is made
again if it was interrupted, continued behind what was taken, and given up at any other failure,
and taking nothing is one.  If nothing is left, one flush follows.  Which bytes were taken, whether
there was a flush and how the delivery ended can be read off that shape.

Main definitions:

* `CodeBlocks.Call` — a call of a writer and what came of it;
* `CodeBlocks.Writer.journaling`, `CodeBlocks.Writer.journal` — the writer that keeps a journal, and
  the journal of a delivery;
* `CodeBlocks.Writes`, `CodeBlocks.Delivers` — the shape of journals;
* `CodeBlocks.Accounts` — what a journal says of a delivery.

Main results:

* `CodeBlocks.Writer.exists_patience_iff` — patience is what writers have that are not interrupted
  for ever;
* `CodeBlocks.Writer.writeAll_journaling` — **keeping a journal changes nothing, and the journal has
  the shape**;
* `CodeBlocks.Delivers.accounts` — what the shape says;
* `CodeBlocks.Writer.deliver_accounts` — **a delivery gives everything once, or says so**.
-/
import CodeBlocks.Writer
import Mathlib.Data.Nat.Find
import Mathlib.Logic.Function.Iterate
import Mathlib.Tactic.Common

set_option relaxedAutoImplicit false
set_option autoImplicit false

namespace CodeBlocks

variable {σ : Type}

/-! ### Patience -/

/-- The state after an offer that is interrupted.  Any other offer leaves the state as it is. -/
def Writer.onward (offer : σ → List UInt8 → Answer σ) (bytes : List UInt8) (state : σ) : σ :=
  match offer state bytes with
  | .refused .interrupted next => next
  | _ => state

/-- **Patience is no bound on interruptions**: there is patience for all states and offers exactly
if no state is interrupted for ever when the same bytes are offered again and again. -/
theorem Writer.exists_patience_iff (offer : σ → List UInt8 → Answer σ) :
    (∃ patience : σ → List UInt8 → Nat, ∀ state next bytes,
        offer state bytes = .refused .interrupted next →
          patience next bytes < patience state bytes) ↔
      ∀ bytes, ¬∃ run : Nat → σ, ∀ n,
        offer (run n) bytes = .refused .interrupted (run (n + 1)) := by
  constructor
  · rintro ⟨patience, less⟩ bytes ⟨run, forever⟩
    have used : ∀ n, patience (run n) bytes + n ≤ patience (run 0) bytes := by
      intro n
      induction n with
      | zero => exact Nat.le_refl _
      | succ n ih =>
          have here := less (run n) (run (n + 1)) bytes (forever n)
          omega
    have tooMuch := used (patience (run 0) bytes + 1)
    omega
  · intro finite
    have stops : ∀ state bytes, ∃ n, offer ((onward offer bytes)^[n] state) bytes ≠
        .refused .interrupted ((onward offer bytes)^[n + 1] state) := by
      intro state bytes
      by_contra never
      simp only [not_exists, ne_eq, not_not] at never
      exact finite bytes ⟨fun n => (onward offer bytes)^[n] state, never⟩
    -- The patience is the number of interruptions up to the first answer of another kind.
    classical
    refine ⟨fun state bytes => Nat.find (stops state bytes), ?_⟩
    intro state next bytes answer
    change Nat.find (stops next bytes) < Nat.find (stops state bytes)
    have moved : onward offer bytes state = next := by rw [onward, answer]
    have last := Nat.find_spec (stops state bytes)
    cases count : Nat.find (stops state bytes) with
    | zero =>
        rw [count] at last
        exact absurd (answer.trans (congrArg _ moved.symm)) last
    | succ n =>
        rw [count, Function.iterate_succ_apply, Function.iterate_succ_apply, moved] at last
        exact Nat.lt_succ_of_le (Nat.find_min' (stops next bytes) last)

/-! ### Calls -/

/-- **A call of a writer**, and what came of it. -/
inductive Call where
  /-- It was offered bytes and took that many of them, from the front. -/
  | took (offered : List UInt8) (count : Nat)
  /-- It was offered bytes and took none of them. -/
  | refused (offered : List UInt8) (fault : IoFault)
  /-- It was flushed. -/
  | flushed (outcome : Except IoFault Unit)

namespace Call

def taken : Call → List UInt8
  | took offered count => offered.take count
  | _ => []

def isFlush : Call → Bool
  | flushed _ => true
  | _ => false

/-- **The failure that a call is**, if it is one.  An interrupted offer is none, because it is made
again.  An interrupted flush is one, and an offer of which nothing is taken. -/
def failure? : Call → Option IoFault
  | took _ 0 => some .writeZero
  | took _ (_ + 1) => none
  | refused _ .interrupted => none
  | refused _ fault => some fault
  | flushed (.error fault) => some fault
  | flushed (.ok ()) => none

theorem failure?_refused {offered : List UInt8} {fault : IoFault} (failing : fault ≠ .interrupted) :
    (refused offered fault).failure? = some fault := by
  cases fault <;> first | rfl | exact absurd rfl failing

/-- A flush behind calls that are none is the last one. -/
theorem eq_of_isFlush {front before after : List Call} {last call : Call}
    (clear : ∀ other ∈ front, ¬other.isFlush) (split : front ++ [last] = before ++ call :: after)
    (flush : call.isFlush) : before = front ∧ after = [] := by
  rcases List.eq_nil_or_concat after with rfl | ⟨inner, final, rfl⟩
  · exact ⟨(List.append_inj' split rfl).1.symm, rfl⟩
  · have longer : before ++ call :: inner.concat final = (before ++ call :: inner) ++ [final] := by
      simp
    rw [longer] at split
    have same := (List.append_inj' split rfl).1
    exact absurd flush (clear call (by simp [same]))

/-- How calls come out: with their first failure. -/
def outcomeOf (calls : List Call) : Except IoFault Unit :=
  match calls.findSome? failure? with
  | some fault => .error fault
  | none => .ok ()

theorem outcomeOf_eq_error_iff {calls : List Call} {fault : IoFault} :
    outcomeOf calls = .error fault ↔ calls.findSome? failure? = some fault := by
  unfold outcomeOf
  cases calls.findSome? failure? <;> simp

theorem outcomeOf_eq_ok_iff {calls : List Call} :
    outcomeOf calls = .ok () ↔ calls.findSome? failure? = none := by
  unfold outcomeOf
  cases calls.findSome? failure? <;> simp

end Call

/-! ### Keeping a journal -/

namespace Writer

/-- **The writer that keeps a journal** of the calls that it passes on. -/
def journaling (writer : Writer σ) : Writer (σ × List Call) where
  offer state bytes :=
    match writer.offer state.1 bytes with
    | .took count next => .took count (next, state.2 ++ [.took bytes count])
    | .refused fault next => .refused fault (next, state.2 ++ [.refused bytes fault])
  flush state :=
    let (outcome, next) := writer.flush state.1
    (outcome, next, state.2 ++ [.flushed outcome])
  patience state bytes := writer.patience state.1 bytes
  count_le := by
    intro state next bytes count answer
    split at answer
    case h_1 size after found =>
      obtain ⟨rfl, _⟩ := Answer.took.inj answer
      exact writer.count_le found
    case h_2 => cases answer
  patience_lt := by
    intro state next bytes answer
    split at answer
    case h_1 => cases answer
    case h_2 fault after found =>
      obtain ⟨rfl, rfl⟩ := Answer.refused.inj answer
      exact writer.patience_lt found

/-- **The journal of a delivery**: the calls that it makes, in order. -/
def journal (writer : Writer σ) (state : σ) (text : String) : List Call :=
  (writer.journaling.deliver (state, []) text).2.2

theorem offer_journaling_of_took {writer : Writer σ} {state next : σ} {bytes : List UInt8}
    {count : Nat} (answer : writer.offer state bytes = .took count next) (calls : List Call) :
    writer.journaling.offer (state, calls) bytes =
      .took count (next, calls ++ [.took bytes count]) := by
  simp only [journaling, answer]

theorem offer_journaling_of_refused {writer : Writer σ} {state next : σ} {bytes : List UInt8}
    {fault : IoFault} (answer : writer.offer state bytes = .refused fault next)
    (calls : List Call) :
    writer.journaling.offer (state, calls) bytes =
      .refused fault (next, calls ++ [.refused bytes fault]) := by
  simp only [journaling, answer]

end Writer

/-! ### The shape of journals -/

/-- **The calls that write bytes**, one after the other, and how they end. -/
inductive Writes : List UInt8 → List Call → Except IoFault Unit → Prop where
  | done : Writes [] [] (.ok ())
  | took {bytes : List UInt8} {calls : List Call} {outcome : Except IoFault Unit} {count : Nat} :
      count < bytes.length → Writes (bytes.drop (count + 1)) calls outcome →
        Writes bytes (.took bytes (count + 1) :: calls) outcome
  | interrupted {bytes : List UInt8} {calls : List Call} {outcome : Except IoFault Unit} :
      bytes ≠ [] → Writes bytes calls outcome →
        Writes bytes (.refused bytes .interrupted :: calls) outcome
  | stalled {bytes : List UInt8} : bytes ≠ [] → Writes bytes [.took bytes 0] (.error .writeZero)
  | refused {bytes : List UInt8} {fault : IoFault} : bytes ≠ [] → fault ≠ .interrupted →
      Writes bytes [.refused bytes fault] (.error fault)

/-- **The calls that deliver bytes**: if all are written, one flush follows, and decides. -/
inductive Delivers (bytes : List UInt8) : List Call → Except IoFault Unit → Prop where
  | flushed {calls : List Call} (outcome : Except IoFault Unit) :
      Writes bytes calls (.ok ()) → Delivers bytes (calls ++ [.flushed outcome]) outcome
  | failed {calls : List Call} {fault : IoFault} :
      Writes bytes calls (.error fault) → Delivers bytes calls (.error fault)

namespace Writer

variable (writer : Writer σ)

-- The induction follows the offers.  The journal so far is carried along in front.
/-- **Keeping a journal changes nothing**, and what is added to it has the shape. -/
theorem writeAll_journaling (state : σ) (bytes : List UInt8) (before : List Call) :
    ∃ calls, Writes bytes calls (writer.writeAll state bytes).1 ∧
      writer.journaling.writeAll (state, before) bytes =
        ((writer.writeAll state bytes).1, (writer.writeAll state bytes).2, before ++ calls) := by
  induction state, bytes using Writer.writeAll.induct writer generalizing before with
  | case1 state =>
      refine ⟨[], ?_, ?_⟩
      · rw [writeAll_nil]
        exact .done
      · rw [writeAll_nil, writeAll_nil, List.append_nil]
  | case2 state byte bytes next answer =>
      rw [writeAll_of_stalled answer]
      refine ⟨[.took (byte :: bytes) 0], .stalled nofun, ?_⟩
      exact writeAll_of_stalled (offer_journaling_of_took answer before)
  | case3 state byte bytes count next answer ih =>
      obtain ⟨calls, shape, same⟩ := ih (before ++ [.took (byte :: bytes) (count + 1)])
      rw [writeAll_of_took answer]
      refine ⟨.took (byte :: bytes) (count + 1) :: calls, .took (writer.count_le answer) shape, ?_⟩
      rw [writeAll_of_took (offer_journaling_of_took answer before), same, List.append_assoc]
      rfl
  | case4 state byte bytes next answer ih =>
      obtain ⟨calls, shape, same⟩ := ih (before ++ [.refused (byte :: bytes) .interrupted])
      rw [writeAll_of_interrupted answer]
      refine ⟨.refused (byte :: bytes) .interrupted :: calls, .interrupted nofun shape, ?_⟩
      rw [writeAll_of_interrupted (offer_journaling_of_refused answer before), same,
        List.append_assoc]
      rfl
  | case5 state byte bytes fault next failing answer =>
      rw [writeAll_of_refused failing answer]
      refine ⟨[.refused (byte :: bytes) fault], .refused nofun failing, ?_⟩
      exact writeAll_of_refused failing (offer_journaling_of_refused answer before)

theorem writeAndFlush_journaling (state : σ) (bytes : List UInt8) :
    ∃ calls, Delivers bytes calls (writer.writeAndFlush state bytes).1 ∧
      writer.journaling.writeAndFlush (state, []) bytes =
        ((writer.writeAndFlush state bytes).1, (writer.writeAndFlush state bytes).2, calls) := by
  obtain ⟨calls, shape, same⟩ := writer.writeAll_journaling state bytes []
  unfold writeAndFlush
  rw [same]
  cases wrote : writer.writeAll state bytes with
  | mk outcome next =>
      rw [wrote] at shape
      cases outcome with
      | error fault => exact ⟨calls, .failed shape, rfl⟩
      | ok => exact ⟨calls ++ [.flushed (writer.flush next).1], .flushed _ shape, rfl⟩

/-- The journal of a delivery has the shape, and the delivery is the same without it. -/
theorem delivers_journal (state : σ) (text : String) :
    writer.journaling.deliver (state, []) text =
        ((writer.deliver state text).1, (writer.deliver state text).2, writer.journal state text) ∧
      ∃ outcome, Delivers (bytesOf text) (writer.journal state text) outcome ∧
        (writer.deliver state text).1 = forgiveBrokenPipe outcome := by
  obtain ⟨calls, shape, same⟩ := writer.writeAndFlush_journaling state (bytesOf text)
  have kept : writer.journal state text = calls := by
    rw [journal, deliver, same]
  refine ⟨?_, (writer.writeAndFlush state (bytesOf text)).1, ?_, rfl⟩
  · rw [kept, deliver, same]
    rfl
  · rwa [kept]

end Writer

/-! ### What the shape says -/

namespace Writes

variable {bytes : List UInt8} {calls : List Call} {outcome : Except IoFault Unit}

/-- **What was taken is the front of the bytes**, and all of them exactly if nothing failed. -/
theorem exists_rest (shape : Writes bytes calls outcome) :
    ∃ rest, bytes = calls.flatMap Call.taken ++ rest ∧ (rest = [] ↔ outcome = .ok ()) := by
  induction shape with
  | done => exact ⟨[], rfl, by simp⟩
  | @took bytes calls outcome count _ _ ih =>
      obtain ⟨rest, split, ended⟩ := ih
      refine ⟨rest, ?_, ended⟩
      rw [List.flatMap_cons, List.append_assoc, ← split]
      exact (List.take_append_drop (count + 1) bytes).symm
  | interrupted _ _ ih => exact ih
  | @stalled bytes left => exact ⟨bytes, by simp [Call.taken], by simp [left]⟩
  | @refused bytes fault left _ => exact ⟨bytes, by simp [Call.taken], by simp [left]⟩

theorem taken_eq (shape : Writes bytes calls (.ok ())) : calls.flatMap Call.taken = bytes := by
  obtain ⟨rest, split, ended⟩ := shape.exists_rest
  rw [ended.2 rfl, List.append_nil] at split
  exact split.symm

theorem taken_ne {fault : IoFault} (shape : Writes bytes calls (.error fault)) :
    calls.flatMap Call.taken ≠ bytes := by
  obtain ⟨rest, split, ended⟩ := shape.exists_rest
  intro all
  rw [all] at split
  exact nomatch ended.1 (List.self_eq_append_right.1 split)

/-- **How writing ends is the first failure.** -/
theorem outcome_eq (shape : Writes bytes calls outcome) : outcome = Call.outcomeOf calls := by
  induction shape with
  | done => rfl
  | took _ _ ih => exact ih
  | interrupted _ _ ih => exact ih
  | stalled _ => rfl
  | @refused bytes fault _ failing =>
      rw [Call.outcomeOf, List.findSome?_cons, Call.failure?_refused failing]

theorem not_isFlush (shape : Writes bytes calls outcome) : ∀ call ∈ calls, ¬call.isFlush := by
  induction shape with
  | done => simp
  | took _ _ ih => simpa [Call.isFlush] using ih
  | interrupted _ _ ih => simpa [Call.isFlush] using ih
  | stalled _ => simp [Call.isFlush]
  | refused _ _ => simp [Call.isFlush]

/-- Where there is nothing to write, nothing is offered. -/
theorem eq_nil (shape : Writes bytes calls outcome) (nothing : bytes = []) : calls = [] := by
  cases shape with
  | done => rfl
  | took some _ => simp [nothing] at some
  | interrupted some _ => exact absurd nothing some
  | stalled some => exact absurd nothing some
  | refused some _ => exact absurd nothing some

end Writes

namespace Delivers

variable {bytes : List UInt8} {calls : List Call} {outcome : Except IoFault Unit}

/-- **How a delivery ends is the first failure.** -/
theorem outcome_eq (shape : Delivers bytes calls outcome) : outcome = Call.outcomeOf calls := by
  cases shape with
  | failed wrote => exact wrote.outcome_eq
  | @flushed front outcome wrote =>
      have clear : front.findSome? Call.failure? = none :=
        Call.outcomeOf_eq_ok_iff.1 wrote.outcome_eq.symm
      rw [Call.outcomeOf, List.findSome?_append, clear, Option.none_or]
      cases outcome <;> rfl

/-- It goes through by itself exactly if everything was taken and flushed. -/
theorem eq_ok_iff (shape : Delivers bytes calls outcome) :
    outcome = .ok () ↔ calls.flatMap Call.taken = bytes ∧ .flushed (.ok ()) ∈ calls := by
  cases shape with
  | @flushed front outcome wrote =>
      have clear : .flushed (.ok ()) ∉ front := fun member => wrote.not_isFlush _ member rfl
      rw [List.flatMap_append, wrote.taken_eq]
      simp [Call.taken, clear, eq_comm]
  | failed wrote =>
      have short := wrote.taken_ne
      simp [short]

end Delivers

/-! ### Accounts -/

/-- **What a journal says of the delivery of a text** that came out in some way. -/
structure Accounts (text : String) (calls : List Call) (outcome : Except IoFault Unit) : Prop where
  /-- What was taken is, in order and once each, the first bytes of the text. -/
  inOrder : calls.flatMap Call.taken <+: Writer.bytesOf text
  /-- There is at most one flush. -/
  flushes : calls.countP Call.isFlush ≤ 1
  /-- There is one exactly if all bytes were taken. -/
  flushed_iff : (∃ call ∈ calls, call.isFlush) ↔ calls.flatMap Call.taken = Writer.bytesOf text
  /-- When it comes, all bytes were taken, and nothing comes after it. -/
  flushedLast : ∀ before call after, calls = before ++ call :: after → call.isFlush →
    before.flatMap Call.taken = Writer.bytesOf text ∧ after = []
  /-- The delivery went through exactly if all bytes were taken and flushed, or if the first failure
  was a broken pipe. -/
  ok_iff : outcome = .ok () ↔
    (calls.flatMap Call.taken = Writer.bytesOf text ∧ .flushed (.ok ()) ∈ calls) ∨
      calls.findSome? Call.failure? = some .brokenPipe
  /-- Otherwise it came out with the first failure. -/
  error_iff : ∀ fault, outcome = .error fault ↔
    calls.findSome? Call.failure? = some fault ∧ fault ≠ .brokenPipe
  /-- For an empty text no bytes are offered. -/
  unoffered : text = "" → ∀ call ∈ calls, call.isFlush

/-- **What the shape of a journal says.** -/
theorem Delivers.accounts {text : String} {calls : List Call} {outcome : Except IoFault Unit}
    (shape : Delivers (Writer.bytesOf text) calls outcome) :
    Accounts text calls (Writer.forgiveBrokenPipe outcome) := by
  have broken : outcome = .error .brokenPipe ↔
      calls.findSome? Call.failure? = some .brokenPipe := by
    rw [shape.outcome_eq, Call.outcomeOf_eq_error_iff]
  have ok_iff : Writer.forgiveBrokenPipe outcome = .ok () ↔
      (calls.flatMap Call.taken = Writer.bytesOf text ∧ .flushed (.ok ()) ∈ calls) ∨
        calls.findSome? Call.failure? = some .brokenPipe := by
    rw [Writer.forgiveBrokenPipe_eq_ok_iff, shape.eq_ok_iff, broken]
  have error_iff : ∀ fault, Writer.forgiveBrokenPipe outcome = .error fault ↔
      calls.findSome? Call.failure? = some fault ∧ fault ≠ .brokenPipe := by
    intro fault
    rw [Writer.forgiveBrokenPipe_eq_error_iff, ← Call.outcomeOf_eq_error_iff, shape.outcome_eq]
  have nothing : text = "" → Writer.bytesOf text = [] := fun empty => by
    simp [empty, Writer.bytesOf]
  cases shape with
  | @flushed front outcome wrote =>
      have clear := wrote.not_isFlush
      have all : (front ++ [Call.flushed outcome]).flatMap Call.taken = Writer.bytesOf text := by
        rw [List.flatMap_append, wrote.taken_eq]
        exact List.append_nil _
      refine ⟨?_, ?_, ?_, ?_, ok_iff, error_iff, ?_⟩
      · exact ⟨[], by rw [List.append_nil, all]⟩
      · rw [List.countP_append, List.countP_eq_zero.2 clear]
        exact Nat.le_refl 1
      · exact iff_of_true ⟨.flushed outcome, by simp, rfl⟩ all
      · intro before call after split isFlush
        obtain ⟨rfl, rfl⟩ := Call.eq_of_isFlush clear split isFlush
        exact ⟨wrote.taken_eq, rfl⟩
      · intro empty
        rw [wrote.eq_nil (nothing empty)]
        simp [Call.isFlush]
  | failed wrote =>
      have clear := wrote.not_isFlush
      obtain ⟨rest, split, _⟩ := wrote.exists_rest
      refine ⟨⟨rest, split.symm⟩, ?_, ?_, ?_, ok_iff, error_iff, ?_⟩
      · rw [List.countP_eq_zero.2 clear]
        exact Nat.zero_le 1
      · exact iff_of_false (fun ⟨call, member, isFlush⟩ => clear call member isFlush) wrote.taken_ne
      · intro before call after split isFlush
        exact absurd isFlush (clear call (by simp [split]))
      · intro empty
        rw [wrote.eq_nil (nothing empty)]
        exact fun call member => absurd member List.not_mem_nil

/-- **A delivery gives everything once, or says so.**  Its journal is that of the delivery without a
journal, and accounts for how it came out. -/
theorem Writer.deliver_accounts (writer : Writer σ) (state : σ) (text : String) :
    writer.journaling.deliver (state, []) text =
        ((writer.deliver state text).1, (writer.deliver state text).2, writer.journal state text) ∧
      Accounts text (writer.journal state text) (writer.deliver state text).1 := by
  obtain ⟨same, outcome, shape, came⟩ := writer.delivers_journal state text
  refine ⟨same, ?_⟩
  rw [came]
  exact shape.accounts

end CodeBlocks
