/-
**Disks that can fail.**

To write a file is to open it and then to hand over its content.  Opening empties the file, and the
disk may fail before it has all of the content; then the file is left with the first part.

Main definitions:

* `CodeBlocks.Disk` — which contents a disk does not take to the end;
* `CodeBlocks.FileTree.storeOn` — the tree after a content was written on a disk.

Main results:

* `CodeBlocks.Disk.taken_of_ok`, `CodeBlocks.Disk.taken_of_error` — the disk has all of a content,
  or the part up to where it fell short.
-/
import CodeBlocks.FileTree

set_option relaxedAutoImplicit false
set_option autoImplicit false

namespace CodeBlocks

/-- How far a content came, and why no further. -/
structure Shortfall where
  count : Nat
  fault : IoFault

/-- **A disk**, by the contents that it does not take to the end.  It fails only while something is
left to take. -/
structure Disk where
  shortfall? : Path → ByteArray → Option Shortfall
  count_lt : ∀ {path content short}, shortfall? path content = some short →
    short.count < content.size

namespace Disk

def roomy : Disk := ⟨fun _ _ => none, nofun⟩

/-- A disk that takes nothing any more. -/
def full : Disk where
  shortfall? _ content := if content.size = 0 then none else some ⟨0, .storageFull⟩
  count_lt {_ content _} short := by
    split at short
    case isTrue => cases short
    case isFalse some =>
      obtain rfl := Option.some.inj short
      exact Nat.pos_of_ne_zero some

def taken (disk : Disk) (path : Path) (content : ByteArray) : ByteArray :=
  match disk.shortfall? path content with
  | none => content
  | some short => content.extract 0 short.count

def outcome (disk : Disk) (path : Path) (content : ByteArray) : Except IoFault Unit :=
  match disk.shortfall? path content with
  | none => .ok ()
  | some short => .error short.fault

variable {disk : Disk} {path : Path} {content : ByteArray}

theorem taken_of_ok (went : disk.outcome path content = .ok ()) :
    disk.taken path content = content := by
  unfold outcome at went
  unfold taken
  split
  case h_1 => rfl
  case h_2 short fell =>
    rw [fell] at went
    cases went

theorem taken_of_error {fault : IoFault} (failed : disk.outcome path content = .error fault) :
    ∃ short, disk.shortfall? path content = some short ∧
      disk.taken path content = content.extract 0 short.count := by
  unfold outcome at failed
  unfold taken
  split
  case h_1 none =>
    rw [none] at failed
    cases failed
  case h_2 short fell => exact ⟨short, fell, rfl⟩

end Disk

namespace FileTree

/-- **The tree after a content was written on a disk.**  A file that cannot be opened stays as it
is. -/
def storeOn (disk : Disk) (tree : FileTree) (path : Path) (content : ByteArray) :
    Except IoFault Unit × FileTree :=
  match tree.store path (disk.taken path content) with
  | .error fault => (.error fault, tree)
  | .ok after => (disk.outcome path content, after)

end FileTree

end CodeBlocks
