/-
**Files that are put out.**

Writing a file makes the directories around it first.  A file can be told to give way to anything
that stands at its path.

Main definitions:

* `CodeBlocks.OutputFile` — a path, a content, and what to do if something is there;
* `CodeBlocks.OutputFile.writeOn` — **writing on a disk**, with the tree afterwards, also after a
  failure;
* `CodeBlocks.OutputFile.write` — writing on a disk that takes everything.

Main results:

* `CodeBlocks.OutputFile.put_eq`, `CodeBlocks.OutputFile.write_eq` — what that comes to.
-/
import CodeBlocks.FileTree.Disk

set_option relaxedAutoImplicit false
set_option autoImplicit false

namespace CodeBlocks

/-- What to do if something stands at the path already. -/
inductive Overwrite where
  | always
  | ifMissing
deriving DecidableEq, Repr

instance : Inhabited Overwrite := ⟨.always⟩

inductive WriteResult where
  | written
  | skipped
deriving DecidableEq, Repr

/-- **A file to put out.** -/
structure OutputFile where
  path : String
  content : String
  overwrite : Overwrite := .always
deriving DecidableEq, Repr

namespace OutputFile

def place (file : OutputFile) : Path := .ofText file.path

def isPresent (file : OutputFile) (tree : FileTree) : Bool := tree.contains file.place

/-- Make the directories around a file, then the file. -/
def putOn (disk : Disk) (file : OutputFile) (tree : FileTree) : Except IoFault Unit × FileTree :=
  let (made, grown) := match file.place.parent? with
    | some parent => tree.makeDirectories parent
    | none => (.ok (), tree)
  match made with
  | .error fault => (.error fault, grown)
  | .ok () => grown.storeOn disk file.place file.content.toUTF8

/-- **Write a file on a disk.**  One that gives way and finds something at its path changes
nothing. -/
def writeOn (disk : Disk) (file : OutputFile) (tree : FileTree) :
    Except IoFault WriteResult × FileTree :=
  if file.overwrite = .ifMissing && file.isPresent tree then (.ok .skipped, tree)
  else
    let (done, after) := file.putOn disk tree
    (done.map fun _ => .written, after)

def put (file : OutputFile) (tree : FileTree) : Except IoFault Unit × FileTree :=
  file.putOn .roomy tree

/-- **Write a file** on a disk that takes everything. -/
def write (file : OutputFile) (tree : FileTree) : Except IoFault WriteResult × FileTree :=
  file.writeOn .roomy tree

theorem put_eq (file : OutputFile) (tree : FileTree) :
    file.put tree =
      let (made, grown) := match file.place.parent? with
        | some parent => tree.makeDirectories parent
        | none => (.ok (), tree)
      match made with
      | .error fault => (.error fault, grown)
      | .ok () =>
        match grown.store file.place file.content.toUTF8 with
        | .error fault => (.error fault, grown)
        | .ok larger => (.ok (), larger) := rfl

theorem write_eq (file : OutputFile) (tree : FileTree) :
    file.write tree =
      if file.overwrite = .ifMissing && file.isPresent tree then (.ok .skipped, tree)
      else ((file.put tree).1.map fun _ => .written, (file.put tree).2) := rfl

end OutputFile

end CodeBlocks
