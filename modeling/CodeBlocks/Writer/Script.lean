/-
**Writers that follow a script.**

A script says how much a writer takes at once and in all, how it fails after that, how often it is
interrupted first, and whether it can be flushed.

Main definitions:

* `CodeBlocks.WriterScript` — the script;
* `CodeBlocks.WriterScript.Progress` — how far a writer has come;
* `CodeBlocks.WriterScript.portion` — what it takes of an offer;
* `CodeBlocks.WriterScript.writer` — **the writer that follows a script.**
-/
import CodeBlocks.Writer

set_option relaxedAutoImplicit false
set_option autoImplicit false

namespace CodeBlocks

/-- **A script for a writer.**  Without `chunk` there is no bound for one offer, without `limit`
none for all of them, and without `failure` a full writer takes nothing. -/
structure WriterScript where
  chunk : Option Nat := none
  limit : Option Nat := none
  failure : Option { fault : IoFault // fault ≠ .interrupted } := none
  flushFailure : Option IoFault := none

namespace WriterScript

/-- **How far a writer has come.** -/
structure Progress where
  interruptions : Nat := 0
  taken : ByteArray := .empty
  flushes : Nat := 0

/-- The first bytes: all of them, or no more than a number. -/
def atMost (bound : Option Nat) (bytes : List UInt8) : List UInt8 :=
  match bound with
  | some count => bytes.take count
  | none => bytes

/-- **The bytes of an offer that are taken**: no more than a chunk, and no more than there is room
for. -/
def portion (script : WriterScript) (progress : Progress) (bytes : List UInt8) : List UInt8 :=
  atMost (script.limit.map (· - progress.taken.size)) (atMost script.chunk bytes)

theorem length_atMost_le (bound : Option Nat) (bytes : List UInt8) :
    (atMost bound bytes).length ≤ bytes.length := by
  cases bound with
  | none => exact Nat.le_refl _
  | some count => exact List.length_take_le' count bytes

theorem length_portion_le (script : WriterScript) (progress : Progress) (bytes : List UInt8) :
    (script.portion progress bytes).length ≤ bytes.length :=
  Nat.le_trans (length_atMost_le _ _) (length_atMost_le _ _)

def isFull (script : WriterScript) (progress : Progress) : Bool :=
  match script.limit with
  | some limit => limit ≤ progress.taken.size
  | none => false

def answer (script : WriterScript) (progress : Progress) (bytes : List UInt8) : Answer Progress :=
  match progress.interruptions with
  | left + 1 => .refused .interrupted { progress with interruptions := left }
  | 0 =>
    match script.failure, script.isFull progress with
    | some fault, true => .refused fault.1 progress
    | _, _ =>
      let portion := script.portion progress bytes
      .took portion.length { progress with taken := portion.foldl ByteArray.push progress.taken }

/-- **The writer that follows a script.** -/
def writer (script : WriterScript) : Writer Progress where
  offer := script.answer
  flush progress :=
    let after := { progress with flushes := progress.flushes + 1 }
    match script.flushFailure with
    | some fault => (.error fault, after)
    | none => (.ok (), after)
  patience progress _ := progress.interruptions
  count_le := by
    intro progress next bytes count h
    rw [answer] at h
    split at h
    · cases h
    · split at h
      · cases h
      · injection h with same
        exact same ▸ script.length_portion_le _ _
  patience_lt := by
    intro progress next bytes h
    rw [answer] at h
    split at h
    case h_1 left found =>
      injection h with _ same
      subst same
      simp [found]
    case h_2 =>
      split at h
      · rename_i fault _ _
        injection h with same _
        exact absurd same fault.2
      · cases h

end WriterScript

end CodeBlocks
