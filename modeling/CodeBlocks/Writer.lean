/-
**Delivering text to a writer.**

A writer takes bytes, in pieces of its own choice, and fails when it likes.  The whole text is
delivered when the writer has taken every byte and a final flush went through.  An interrupted offer
is made again.  A writer that nobody reads any more is no failure of the delivery.

Main definitions:

* `CodeBlocks.Writer` — a writer with states `σ`;
* `CodeBlocks.Writer.writeAll` — offer bytes until all are taken;
* `CodeBlocks.Writer.deliver` — **write a text and flush**;
* `CodeBlocks.Writer.collecting` — the writer that takes everything.

Main results:

* `CodeBlocks.Writer.writeAll_nil` — where there is nothing to write, nothing is offered;
* `CodeBlocks.Writer.writeAll_of_took`, `CodeBlocks.Writer.writeAll_of_stalled`,
  `CodeBlocks.Writer.writeAll_of_interrupted`, `CodeBlocks.Writer.writeAll_of_refused` — what
  follows each answer to the first offer;
* `CodeBlocks.Writer.forgiveBrokenPipe_eq_error_iff` — every other failure is kept.
-/
import CodeBlocks.FileTree.Fault

set_option relaxedAutoImplicit false
set_option autoImplicit false

namespace CodeBlocks

inductive Answer (σ : Type) where
  /-- It took that many of the bytes, from the front. -/
  | took (count : Nat) (next : σ)
  /-- It took none and says why. -/
  | refused (fault : IoFault) (next : σ)

/-- **A writer.**  It cannot take more than it is offered, and it cannot be interrupted for ever:
each interruption of an offer uses up some of the patience for that offer. -/
structure Writer (σ : Type) where
  offer : σ → List UInt8 → Answer σ
  flush : σ → Except IoFault Unit × σ
  patience : σ → List UInt8 → Nat
  count_le : ∀ {state next : σ} {bytes : List UInt8} {count : Nat},
    offer state bytes = .took count next → count ≤ bytes.length
  patience_lt : ∀ {state next : σ} {bytes : List UInt8},
    offer state bytes = .refused .interrupted next →
      patience next bytes < patience state bytes

namespace Writer

variable {σ : Type}

/-! ### Delivery -/

/-- **Offer bytes until all are taken**, or until the writer fails.  Taking none is a failure. -/
def writeAll (writer : Writer σ) (state : σ) : List UInt8 → Except IoFault Unit × σ
  | [] => (.ok (), state)
  | byte :: bytes =>
    match _h : writer.offer state (byte :: bytes) with
    | .took 0 next => (.error .writeZero, next)
    | .took (count + 1) next => writer.writeAll next (bytes.drop count)
    | .refused .interrupted next => writer.writeAll next (byte :: bytes)
    | .refused fault next => (.error fault, next)
termination_by bytes => (bytes.length, writer.patience state bytes)
decreasing_by
  · apply Prod.Lex.left
    simp only [List.length_drop, List.length_cons]
    omega
  · apply Prod.Lex.right
    exact writer.patience_lt (by assumption)

def writeAndFlush (writer : Writer σ) (state : σ) (bytes : List UInt8) :
    Except IoFault Unit × σ :=
  match writer.writeAll state bytes with
  | (.ok (), next) => writer.flush next
  | (.error fault, next) => (.error fault, next)

/-- The outcome where a broken pipe is no failure. -/
def forgiveBrokenPipe : Except IoFault Unit → Except IoFault Unit
  | .error .brokenPipe => .ok ()
  | outcome => outcome

theorem forgiveBrokenPipe_eq_error_iff {outcome : Except IoFault Unit} {fault : IoFault} :
    forgiveBrokenPipe outcome = .error fault ↔ outcome = .error fault ∧ fault ≠ .brokenPipe := by
  unfold forgiveBrokenPipe
  split
  case h_1 => simp [eq_comm]
  case h_2 other =>
    constructor
    · rintro rfl
      exact ⟨rfl, fun broken => other (by rw [broken])⟩
    · exact And.left

theorem forgiveBrokenPipe_eq_ok_iff {outcome : Except IoFault Unit} :
    forgiveBrokenPipe outcome = .ok () ↔ outcome = .ok () ∨ outcome = .error .brokenPipe := by
  unfold forgiveBrokenPipe
  split
  case h_1 => simp
  case h_2 other => exact ⟨Or.inl, fun came => came.resolve_right other⟩

def bytesOf (text : String) : List UInt8 := text.toUTF8.toList

/-- **Write a text and flush.** -/
def deliver (writer : Writer σ) (state : σ) (text : String) : Except IoFault Unit × σ :=
  let (outcome, next) := writer.writeAndFlush state (bytesOf text)
  (forgiveBrokenPipe outcome, next)

/-- Write a line and its line break.  Nothing is forgiven. -/
def putLine (writer : Writer σ) (state : σ) (line : String) : Except IoFault Unit × σ :=
  writer.writeAll state (bytesOf (line ++ "\n"))

@[simp] theorem writeAll_nil (writer : Writer σ) (state : σ) :
    writer.writeAll state [] = (.ok (), state) := by
  rw [writeAll]

section Answers

variable {writer : Writer σ} {state next : σ} {byte : UInt8} {bytes : List UInt8}

theorem writeAll_of_took {count : Nat}
    (answer : writer.offer state (byte :: bytes) = .took (count + 1) next) :
    writer.writeAll state (byte :: bytes) = writer.writeAll next (bytes.drop count) := by
  rw [writeAll]
  split <;> simp_all

theorem writeAll_of_stalled (answer : writer.offer state (byte :: bytes) = .took 0 next) :
    writer.writeAll state (byte :: bytes) = (.error .writeZero, next) := by
  rw [writeAll]
  split <;> simp_all

theorem writeAll_of_interrupted
    (answer : writer.offer state (byte :: bytes) = .refused .interrupted next) :
    writer.writeAll state (byte :: bytes) = writer.writeAll next (byte :: bytes) := by
  rw [writeAll]
  split <;> simp_all

theorem writeAll_of_refused {fault : IoFault} (failing : fault ≠ .interrupted)
    (answer : writer.offer state (byte :: bytes) = .refused fault next) :
    writer.writeAll state (byte :: bytes) = (.error fault, next) := by
  rw [writeAll]
  split <;> simp_all

end Answers

/-! ### Collecting -/

/-- **The writer that takes everything.** -/
def collecting : Writer ByteArray where
  offer taken bytes := .took bytes.length (bytes.foldl ByteArray.push taken)
  flush taken := (.ok (), taken)
  patience _ _ := 0
  count_le h := by
    injection h with count
    exact Nat.le_of_eq count.symm
  patience_lt h := by cases h

end Writer

end CodeBlocks
