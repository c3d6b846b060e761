/-
**Pipes.**

A pipe takes bytes for as long as somebody reads at its other end.  From the moment when nobody
does, it is broken, and that is the only way in which it fails.  It can break in front of any byte
and at any flush.  Of what is written to a pipe the first bytes arrive, and all of them exactly if
writing goes through.  A delivery to a pipe always goes through, because there a broken pipe is
forgiven.

Main definitions:

* `CodeBlocks.Writer.IsPipe` — a writer that fails by being broken, and in no other way;
* `CodeBlocks.Writer.IsReadUpTo` — a pipe that is read up to some byte;
* `CodeBlocks.Writer.Passes` — the first of some bytes arrive, and all of them under a condition.

Main results:

* `CodeBlocks.Writer.Passes.through_iff` — the condition is that everything arrived;
* `CodeBlocks.Writer.IsPipe.writeAll` — **what becomes of bytes that are written to a pipe**;
* `CodeBlocks.Writer.IsPipe.deliver` — **a delivery to a pipe goes through**;
* `CodeBlocks.Writer.IsReadUpTo.writeAll_eq_ok_iff` — writing goes through as long as the bytes are
  read;
* `CodeBlocks.WriterScript.isPipe`, `CodeBlocks.WriterScript.isReadUpTo` — scripts for pipes.
-/
import CodeBlocks.Proofs.Delivery.Steadiness
import CodeBlocks.Writer.Script

set_option relaxedAutoImplicit false
set_option autoImplicit false

namespace CodeBlocks

namespace Writer

variable {σ : Type} {writer : Writer σ} {taken : σ → List UInt8}

/-! ### Lengths -/

theorem length_toListLoop (bytes : ByteArray) (start : Nat) (read : List UInt8) :
    (ByteArray.toList.loop bytes start read).length = read.length + (bytes.size - start) := by
  fun_induction ByteArray.toList.loop bytes start read with
  | case1 start read more ih =>
      rw [ih, List.length_cons]
      omega
  | case2 start read done =>
      rw [List.length_reverse]
      omega

theorem length_bytesOf (text : String) : (bytesOf text).length = text.utf8ByteSize := by
  have size := length_toListLoop text.toUTF8 0 []
  rwa [List.length_nil, Nat.zero_add, Nat.sub_zero] at size

/-! ### Bytes on their way -/

/-- **Bytes on their way from one state to another**: the first of them arrive, and none is left
over exactly under a condition. -/
def Passes (taken : σ → List UInt8) (before : σ) (bytes : List UInt8) (after : σ)
    (through : Prop) : Prop :=
  ∃ sent rest, bytes = sent ++ rest ∧ taken after = taken before ++ sent ∧ (through ↔ rest = [])

namespace Passes

variable {before middle after : σ} {bytes more : List UInt8} {through : Prop}

/-- The condition is that everything arrived. -/
theorem through_iff (passes : Passes taken before bytes after through) :
    through ↔ taken after = taken before ++ bytes := by
  obtain ⟨sent, rest, rfl, arrived, left⟩ := passes
  rw [left, arrived, List.append_cancel_left_eq, List.self_eq_append_right]

/-- Where there are no bytes, all of them arrive. -/
theorem through_of_nil (passes : Passes taken before [] after through) : through := by
  obtain ⟨sent, rest, split, _, left⟩ := passes
  exact left.2 (List.append_eq_nil_iff.1 split.symm).2

theorem nil (same : taken after = taken before) (holds : through) :
    Passes taken before [] after through :=
  ⟨[], [], rfl, same.trans (List.append_nil _).symm, iff_of_true holds rfl⟩

/-- **Bytes that follow others** which all arrived. -/
theorem append (arrived : taken middle = taken before ++ bytes)
    (passes : Passes taken middle more after through) :
    Passes taken before (bytes ++ more) after through := by
  obtain ⟨sent, rest, rfl, last, left⟩ := passes
  refine ⟨bytes ++ sent, rest, (List.append_assoc ..).symm, ?_, left⟩
  rw [last, arrived, List.append_assoc]

/-- **Bytes that would have followed others**, of which some are left over. -/
theorem append_of_not (passes : Passes taken before bytes after through) (fails : ¬through)
    {other : Prop} (never : ¬other) : Passes taken before (bytes ++ more) after other := by
  obtain ⟨sent, rest, rfl, arrived, left⟩ := passes
  have some : rest ≠ [] := mt left.2 fails
  refine ⟨sent, rest ++ more, List.append_assoc .., arrived, iff_of_false never ?_⟩
  exact fun none => some (List.append_eq_nil_iff.1 none).1

end Passes

/-! ### Pipes -/

/-- **A pipe**: of every offer it takes something, or it is interrupted and takes nothing, or it is
broken.  A flush finds it broken or goes through. -/
structure IsPipe (writer : Writer σ) (taken : σ → List UInt8) : Prop where
  offer : ∀ state bytes, bytes ≠ [] →
    (∃ count next, writer.offer state bytes = .took (count + 1) next ∧
        taken next = taken state ++ bytes.take (count + 1)) ∨
      ∃ fault next, writer.offer state bytes = .refused fault next ∧
        (fault = .interrupted ∨ fault = .brokenPipe) ∧ taken next = taken state
  flush : ∀ state, (writer.flush state).1 = .ok () ∨ (writer.flush state).1 = .error .brokenPipe

/-- A steady writer is a pipe that never breaks. -/
theorem IsSteady.isPipe (steady : writer.IsSteady taken) : writer.IsPipe taken where
  offer state bytes some :=
    (steady.offer state bytes some).imp_right fun ⟨next, answer, same⟩ =>
      ⟨.interrupted, next, answer, Or.inl rfl, same⟩
  flush state := by
    obtain ⟨next, flushed, _⟩ := steady.flush state
    exact Or.inl (congrArg Prod.fst flushed)

section Offers

variable {state next : σ} {bytes : List UInt8}

/-- What a pipe takes is not nothing, and arrives. -/
theorem IsPipe.of_took (pipe : writer.IsPipe taken) (some : bytes ≠ []) {count : Nat}
    (took : writer.offer state bytes = .took count next) :
    count ≠ 0 ∧ taken next = taken state ++ bytes.take count := by
  rcases pipe.offer state bytes some with ⟨_, _, same, arrived⟩ | ⟨_, _, other, _⟩
  · rw [took] at same
    obtain ⟨rfl, rfl⟩ := Answer.took.inj same
    exact ⟨Nat.succ_ne_zero _, arrived⟩
  · rw [took] at other
    cases other

/-- A pipe that refuses an offer is interrupted or broken. -/
theorem IsPipe.of_refused (pipe : writer.IsPipe taken) (some : bytes ≠ []) {fault : IoFault}
    (refused : writer.offer state bytes = .refused fault next) :
    (fault = .interrupted ∨ fault = .brokenPipe) ∧ taken next = taken state := by
  rcases pipe.offer state bytes some with ⟨_, _, other, _⟩ | ⟨_, _, same, kinds⟩
  · rw [refused] at other
    cases other
  · rw [refused] at same
    obtain ⟨rfl, rfl⟩ := Answer.refused.inj same
    exact kinds

end Offers

/-- **What becomes of bytes that are written to a pipe**: the first of them arrive, and all of them
exactly if writing goes through; if it does not, the pipe is broken. -/
theorem IsPipe.writeAll (pipe : writer.IsPipe taken) (state : σ) (bytes : List UInt8) :
    ((writer.writeAll state bytes).1 = .ok () ∨
        (writer.writeAll state bytes).1 = .error .brokenPipe) ∧
      Passes taken state bytes (writer.writeAll state bytes).2
        ((writer.writeAll state bytes).1 = .ok ()) := by
  fun_induction Writer.writeAll writer state bytes with
  | case1 state => exact ⟨Or.inl rfl, .nil rfl rfl⟩
  | case2 state byte bytes next took =>
      exact absurd rfl (pipe.of_took (List.cons_ne_nil byte bytes) took).1
  | case3 state byte bytes count next took ih =>
      have arrived := (pipe.of_took (List.cons_ne_nil byte bytes) took).2
      have split : byte :: bytes = (byte :: bytes).take (count + 1) ++ bytes.drop count :=
        (List.take_append_drop (count + 1) (byte :: bytes)).symm
      refine ⟨ih.1, ?_⟩
      rw [split]
      exact .append arrived ih.2
  | case4 state byte bytes next interrupted ih =>
      have same := (pipe.of_refused (List.cons_ne_nil byte bytes) interrupted).2
      have nothing : taken next = taken state ++ [] := by rw [same, List.append_nil]
      exact ⟨ih.1, Passes.append nothing ih.2⟩
  | case5 state byte bytes fault next failing refused =>
      obtain ⟨kinds, same⟩ := pipe.of_refused (List.cons_ne_nil byte bytes) refused
      have broken := kinds.resolve_left failing
      refine ⟨Or.inr (congrArg _ broken), [], byte :: bytes, rfl, ?_, ?_⟩
      · rw [same, List.append_nil]
      · exact iff_of_false (by simp) (List.cons_ne_nil byte bytes)

/-- What becomes of a line that is written to a pipe. -/
theorem IsPipe.putLine (pipe : writer.IsPipe taken) (state : σ) (line : String) :
    ((writer.putLine state line).1 = .ok () ∨
        (writer.putLine state line).1 = .error .brokenPipe) ∧
      Passes taken state (bytesOf (line ++ "\n")) (writer.putLine state line).2
        ((writer.putLine state line).1 = .ok ()) :=
  pipe.writeAll state (bytesOf (line ++ "\n"))

/-- **A delivery to a pipe goes through**, wherever it breaks. -/
theorem IsPipe.deliver (pipe : writer.IsPipe taken) (state : σ) (text : String) :
    (writer.deliver state text).1 = .ok () := by
  have wrote := (pipe.writeAll state (bytesOf text)).1
  change forgiveBrokenPipe (writer.writeAndFlush state (bytesOf text)).1 = .ok ()
  rw [forgiveBrokenPipe_eq_ok_iff, writeAndFlush]
  cases came : writer.writeAll state (bytesOf text) with
  | mk outcome next =>
      rw [came] at wrote
      cases outcome with
      | ok => exact pipe.flush next
      | error fault => exact wrote

/-! ### Pipes that are read up to a byte -/

/-- **A pipe that is read up to a byte**: it never takes more, and is not broken before that. -/
structure IsReadUpTo (writer : Writer σ) (taken : σ → List UInt8) (limit : Nat) : Prop
    extends writer.IsPipe taken where
  room : ∀ state bytes count next, writer.offer state bytes = .took count next →
    (taken state).length ≤ limit → (taken next).length ≤ limit
  full : ∀ state bytes next, bytes ≠ [] → writer.offer state bytes = .refused .brokenPipe next →
    limit ≤ (taken state).length

/-- **Writing goes through exactly if the bytes are within the limit.** -/
theorem IsReadUpTo.writeAll_eq_ok_iff {limit : Nat} (reads : writer.IsReadUpTo taken limit)
    (state : σ) (bytes : List UInt8) (within : (taken state).length ≤ limit) :
    (writer.writeAll state bytes).1 = .ok () ↔
      (taken state).length + bytes.length ≤ limit := by
  fun_induction Writer.writeAll writer state bytes with
  | case1 state => exact iff_of_true rfl within
  | case2 state byte bytes next took =>
      exact absurd rfl (reads.of_took (List.cons_ne_nil byte bytes) took).1
  | case3 state byte bytes count next took ih =>
      have arrived := (reads.of_took (List.cons_ne_nil byte bytes) took).2
      have size : (taken next).length + (bytes.drop count).length =
          (taken state).length + (byte :: bytes).length := by
        rw [arrived, List.length_append, List.length_take, List.length_drop, List.length_cons]
        omega
      rw [ih (reads.room _ _ _ _ took within), size]
  | case4 state byte bytes next interrupted ih =>
      have same := (reads.of_refused (List.cons_ne_nil byte bytes) interrupted).2
      rw [ih (by rw [same]; exact within), same]
  | case5 state byte bytes fault next failing refused =>
      have some := List.cons_ne_nil byte bytes
      obtain rfl := (reads.of_refused some refused).1.resolve_left failing
      have full := reads.full _ _ _ some refused
      refine iff_of_false (by simp) ?_
      rw [List.length_cons]
      omega

theorem IsReadUpTo.putLine_eq_ok_iff {limit : Nat} (reads : writer.IsReadUpTo taken limit)
    (state : σ) (line : String) (within : (taken state).length ≤ limit) :
    (writer.putLine state line).1 = .ok () ↔
      (taken state).length + (bytesOf (line ++ "\n")).length ≤ limit :=
  reads.writeAll_eq_ok_iff state (bytesOf (line ++ "\n")) within

end Writer

/-! ### Scripts for pipes -/

namespace WriterScript

theorem prefix_atMost (bound : Option Nat) (bytes : List UInt8) : atMost bound bytes <+: bytes := by
  cases bound with
  | none => exact List.prefix_rfl
  | some count => exact List.take_prefix count bytes

theorem atMost_ne_nil {bound : Option Nat} {bytes : List UInt8} (room : ∀ count ∈ bound, 0 < count)
    (some : bytes ≠ []) : atMost bound bytes ≠ [] := by
  cases bound with
  | none => exact some
  | some count =>
      have wide : count ≠ 0 := Nat.ne_of_gt (room count rfl)
      rw [atMost, Ne, List.take_eq_nil_iff]
      exact not_or.2 ⟨wide, some⟩

variable {script : WriterScript} {progress : Progress} {bytes : List UInt8}

theorem prefix_portion (script : WriterScript) (progress : Progress) (bytes : List UInt8) :
    script.portion progress bytes <+: bytes :=
  (prefix_atMost _ _).trans (prefix_atMost _ _)

/-- Something of an offer is taken unless the limit is reached. -/
theorem portion_ne_nil (chunks : ∀ size ∈ script.chunk, 0 < size)
    (left : script.isFull progress = false) (some : bytes ≠ []) :
    script.portion progress bytes ≠ [] := by
  refine atMost_ne_nil ?_ (atMost_ne_nil chunks some)
  intro room found
  obtain ⟨limit, bound, rfl⟩ := Option.map_eq_some_iff.1 found
  rw [isFull, bound] at left
  have below : ¬limit ≤ progress.taken.size := of_decide_eq_false left
  omega

theorem length_portion_le_room {limit : Nat} (limited : script.limit = some limit)
    (progress : Progress) (bytes : List UInt8) :
    (script.portion progress bytes).length ≤ limit - progress.taken.size := by
  rw [portion, limited]
  exact List.length_take_le _ _

/-- **The answers of a script that ends in a broken pipe**: it interrupts, or it is broken because
the limit is reached, or it takes its portion. -/
theorem answer_cases (breaks : script.failure = some ⟨.brokenPipe, nofun⟩) (progress : Progress)
    (bytes : List UInt8) :
    (∃ count, script.answer progress bytes =
        .refused .interrupted { progress with interruptions := count }) ∨
      (script.isFull progress = true ∧
        script.answer progress bytes = .refused .brokenPipe progress) ∨
      (script.isFull progress = false ∧
        script.answer progress bytes = .took (script.portion progress bytes).length
          { progress with
            taken := (script.portion progress bytes).foldl ByteArray.push progress.taken }) := by
  rw [answer, breaks]
  cases progress.interruptions with
  | succ count => exact Or.inl ⟨count, rfl⟩
  | zero =>
      cases full : script.isFull progress with
      | true => exact Or.inr (Or.inl ⟨rfl, rfl⟩)
      | false => exact Or.inr (Or.inr ⟨rfl, rfl⟩)

/-- **A script for a pipe**: it takes bytes in chunks of some size, is broken when a limit is
reached, and a flush finds it so or goes through. -/
theorem isPipe (chunks : ∀ size ∈ script.chunk, 0 < size)
    (breaks : script.failure = some ⟨.brokenPipe, nofun⟩)
    (flushes : script.flushFailure = none ∨ script.flushFailure = some .brokenPipe) :
    script.writer.IsPipe fun progress => progress.taken.data.toList where
  offer progress bytes some := by
    rcases answer_cases breaks progress bytes with ⟨_, answer⟩ | ⟨_, answer⟩ | ⟨left, answer⟩
    · exact Or.inr ⟨_, _, answer, Or.inl rfl, rfl⟩
    · exact Or.inr ⟨_, _, answer, Or.inr rfl, rfl⟩
    · have front := List.prefix_iff_eq_take.1 (script.prefix_portion progress bytes)
      have here := List.length_pos_iff.2 (portion_ne_nil chunks left some)
      obtain ⟨count, size⟩ := Nat.exists_eq_add_one_of_ne_zero (Nat.ne_of_gt here)
      rw [size] at answer
      refine Or.inl ⟨count, _, answer, ?_⟩
      rw [Writer.data_foldl_push, ← size, ← front]
  flush progress := by
    rcases flushes with none | broken
    · exact Or.inl (by simp only [writer, none])
    · exact Or.inr (by simp only [writer, broken])

/-- **A script with a limit is read up to that byte.** -/
theorem isReadUpTo {limit : Nat} (chunks : ∀ size ∈ script.chunk, 0 < size)
    (breaks : script.failure = some ⟨.brokenPipe, nofun⟩)
    (flushes : script.flushFailure = none ∨ script.flushFailure = some .brokenPipe)
    (limited : script.limit = some limit) :
    script.writer.IsReadUpTo (fun progress => progress.taken.data.toList) limit where
  toIsPipe := isPipe chunks breaks flushes
  room progress bytes count next took within := by
    have took : script.answer progress bytes = .took count next := took
    rcases answer_cases breaks progress bytes with ⟨_, answer⟩ | ⟨_, answer⟩ | ⟨_, answer⟩
    · cases took.symm.trans answer
    · cases took.symm.trans answer
    · obtain ⟨_, rfl⟩ := Answer.took.inj (took.symm.trans answer)
      have room := length_portion_le_room limited progress bytes
      change _ ≤ limit - progress.taken.data.toList.length at room
      rw [Writer.data_foldl_push, List.length_append]
      omega
  full progress bytes next some refused := by
    have refused : script.answer progress bytes = .refused .brokenPipe next := refused
    rcases answer_cases breaks progress bytes with ⟨_, answer⟩ | ⟨full, answer⟩ | ⟨_, answer⟩
    · cases refused.symm.trans answer
    · rw [isFull, limited] at full
      exact of_decide_eq_true full
    · cases refused.symm.trans answer

/-- A pipe that is read up to a byte, and then is broken for offers and flushes alike. -/
def readUpTo (limit : Nat) : WriterScript where
  limit := some limit
  failure := some ⟨.brokenPipe, nofun⟩
  flushFailure := some .brokenPipe

theorem isReadUpTo_readUpTo (limit : Nat) :
    (readUpTo limit).writer.IsReadUpTo (fun progress => progress.taken.data.toList) limit :=
  isReadUpTo nofun rfl (Or.inr rfl) rfl

end WriterScript

end CodeBlocks
