/-
**Trees of files.**

A tree of files says what stands at each location, and which directory relative paths start from.
Looking something up follows the parts of a path one by one, and every part but the last has to lead
through a directory.  An operation that fails leaves everything as it was; making a directory with
all that is missing above it is several operations.

There are files and directories, and nothing else: no links, no special files, and no permissions.
So no operation here is refused for want of a permission or of space.  That a disk can fall short
while it takes a content is said apart (`CodeBlocks.FileTree.storeOn`).

Main definitions:

* `CodeBlocks.FileTree` — the tree;
* `CodeBlocks.FileTree.walk`, `CodeBlocks.FileTree.resolve` — the location of a path;
* `CodeBlocks.FileTree.contains`, `CodeBlocks.FileTree.readText` — looking;
* `CodeBlocks.FileTree.makeDirectory`, `CodeBlocks.FileTree.makeDirectories`,
  `CodeBlocks.FileTree.store` — changing.

Main results:

* `CodeBlocks.FileTree.entry_set_self`, `CodeBlocks.FileTree.entry_set_of_ne` — only what stands at
  the given location changes;
* `CodeBlocks.FileTree.walk_nil`, `CodeBlocks.FileTree.walk_cons` — **how a walk goes on**, said by
  what stands at each location.
-/
import CodeBlocks.FileTree.Fault
import CodeBlocks.FileTree.Path
import CodeBlocks.FileTree.Trie

set_option relaxedAutoImplicit false
set_option autoImplicit false

namespace CodeBlocks

/-- **A place in the tree**: the names on the way to it, the innermost first. -/
abbrev Location : Type := List String

inductive FileEntry where
  | file (content : ByteArray)
  | directory

structure FileTree where
  entries : Trie FileEntry
  workingDirectory : Location := []

namespace FileTree

def empty : FileTree := ⟨.empty, []⟩

instance : Inhabited FileTree := ⟨empty⟩

/-- What stands at a location.  The root is always a directory. -/
def entry (tree : FileTree) (location : Location) : Option FileEntry :=
  if location = [] then some .directory else tree.entries.get location.reverse

def set (tree : FileTree) (location : Location) (held : FileEntry) : FileTree :=
  { tree with entries := tree.entries.insert location.reverse held }

@[simp] theorem entry_root (tree : FileTree) : tree.entry [] = some .directory := rfl

@[simp] theorem entry_set_self (tree : FileTree) {location : Location} (held : FileEntry)
    (below : location ≠ []) : (tree.set location held).entry location = some held := by
  simp [entry, set, below, Trie.get_insert_self]

theorem entry_set_of_ne (tree : FileTree) {location place : Location} (held : FileEntry)
    (other : place ≠ location) : (tree.set location held).entry place = tree.entry place := by
  have : place.reverse ≠ location.reverse := fun equal => other (List.reverse_inj.1 equal)
  simp [entry, set, Trie.get_insert_of_ne _ _ this]

/-! ### Locations of paths -/

def longestName : Nat := 255

def longestPath : Nat := 4095

/-- A way from the root: the names on it, the innermost first, each with what is below it. -/
abbrev Way : Type := List (String × Trie FileEntry)

def atEnd (tree : FileTree) : Way → Trie FileEntry
  | [] => tree.entries
  | (_, trie) :: _ => trie

def entryOfWay (tree : FileTree) (way : Way) : Option FileEntry :=
  if way = [] then some .directory else (tree.atEnd way).held

def extend (tree : FileTree) (name : String) (way : Way) : Way :=
  (name, (tree.atEnd way).child name) :: way

def wayTo (tree : FileTree) (place : Location) : Way := place.foldr tree.extend []

/-- The way that some parts lead on to.  Each part starts from a directory. -/
def follow (tree : FileTree) : Way → List (List Char) → Except IoFault Way
  | way, [] => .ok way
  | way, part :: parts =>
    match tree.entryOfWay way with
    | none => .error .notFound
    | some (.file _) => .error .notADirectory
    | some .directory =>
      if Path.isIdle part then tree.follow way parts
      else if part = ['.', '.'] then tree.follow way.tail parts
      else
        let name := String.ofList part
        if longestName < name.utf8ByteSize then .error .invalidFilename
        else tree.follow (tree.extend name way) parts

/-- **The location that some parts lead to.** -/
def walk (tree : FileTree) (place : Location) (parts : List (List Char)) :
    Except IoFault Location :=
  (tree.follow (tree.wayTo place) parts).map fun way => way.map Prod.fst

@[simp] theorem names_wayTo (tree : FileTree) (place : Location) :
    (tree.wayTo place).map Prod.fst = place := by
  induction place with
  | nil => rfl
  | cons name place ih => exact congrArg (name :: ·) ih

theorem atEnd_wayTo (tree : FileTree) (place : Location) :
    tree.atEnd (tree.wayTo place) = tree.entries.descend place.reverse := by
  induction place with
  | nil => rfl
  | cons name place ih =>
    rw [List.reverse_cons, Trie.descend_append, ← ih]
    rfl

theorem entryOfWay_wayTo (tree : FileTree) (place : Location) :
    tree.entryOfWay (tree.wayTo place) = tree.entry place := by
  cases place with
  | nil => rfl
  | cons name place =>
    have : tree.wayTo (name :: place) ≠ [] := List.cons_ne_nil _ _
    rw [entryOfWay, if_neg this, entry, if_neg (List.cons_ne_nil _ _), atEnd_wayTo]
    rfl

theorem tail_wayTo (tree : FileTree) (place : Location) :
    (tree.wayTo place).tail = tree.wayTo place.tail := by
  cases place <;> rfl

theorem walk_nil (tree : FileTree) (place : Location) : tree.walk place [] = .ok place := by
  simp [walk, follow, Except.map]

/-- **A walk goes on** with one part from what stands at a location. -/
theorem walk_cons (tree : FileTree) (place : Location) (part : List Char)
    (parts : List (List Char)) :
    tree.walk place (part :: parts) =
      match tree.entry place with
      | none => .error .notFound
      | some (.file _) => .error .notADirectory
      | some .directory =>
        if Path.isIdle part then tree.walk place parts
        else if part = ['.', '.'] then tree.walk place.tail parts
        else if longestName < (String.ofList part).utf8ByteSize then .error .invalidFilename
        else tree.walk (String.ofList part :: place) parts := by
  rw [walk, follow, entryOfWay_wayTo]
  split
  case h_1 => rfl
  case h_2 => rfl
  case h_3 =>
    split
    · rfl
    · split
      · rw [tail_wayTo]
        rfl
      · dsimp only
        split <;> rfl

/-- The location a path starts from, if the path can be one at all. -/
def start (tree : FileTree) (path : Path) : Except IoFault Location :=
  let text := path.text
  if text.toList.contains '\x00' then .error .invalidInput
  else if longestPath < text.utf8ByteSize then .error .invalidFilename
  else if text = "" then .error .notFound
  else .ok (if path.rooted then [] else tree.workingDirectory)

/-- **The location of a path.**  Nothing needs to stand there. -/
def resolve (tree : FileTree) (path : Path) : Except IoFault Location := do
  tree.walk (← tree.start path) path.parts

/-! ### Looking -/

def find (tree : FileTree) (path : Path) : Except IoFault FileEntry := do
  match tree.entry (← tree.resolve path) with
  | some held => return held
  | none => throw .notFound

def contains (tree : FileTree) (path : Path) : Bool := (tree.find path).toBool

def hasDirectory (tree : FileTree) (path : Path) : Bool :=
  match tree.find path with
  | .ok .directory => true
  | _ => false

/-- **The text of a file.** -/
def readText (tree : FileTree) (path : Path) : Except IoFault String := do
  match ← tree.find path with
  | .directory => throw .isADirectory
  | .file content =>
    match String.fromUTF8? content with
    | some text => return text
    | none => throw .invalidData

/-! ### Changing -/

/-- **The tree with a new directory.**  The directory around it has to be there. -/
def makeDirectory (tree : FileTree) (path : Path) : Except IoFault FileTree := do
  let place ← tree.walk (← tree.start path) path.trimmed
  match tree.entry place with
  | some _ => throw .alreadyExists
  | none => return tree.set place .directory

def ensureDirectory (tree : FileTree) (path : Path) : Except IoFault FileTree :=
  match tree.makeDirectory path with
  | .ok larger => .ok larger
  | .error fault => if tree.hasDirectory path then .ok tree else .error fault

/-- **The tree with a directory and all that is missing above it.**  What was made before a failure
stays. -/
def makeDirectories (tree : FileTree) (path : Path) : Except IoFault Unit × FileTree :=
  if path.text = "" then (.ok (), tree)
  else
    match tree.makeDirectory path with
    | .ok larger => (.ok (), larger)
    | .error .notFound =>
      match _h : path.parent? with
      | none => (.error .notFound, tree)
      | some parent =>
        match tree.makeDirectories parent with
        | (.error fault, grown) => (.error fault, grown)
        | (.ok (), grown) =>
          match grown.ensureDirectory path with
          | .ok larger => (.ok (), larger)
          | .error fault => (.error fault, grown)
    | .error fault => if tree.hasDirectory path then (.ok (), tree) else (.error fault, tree)
termination_by path.parts.length
decreasing_by exact Path.length_parent?_lt (by assumption)

/-- **The tree with a file that holds a content**, whether it was there or not.  A slash at the end
of the path asks for a directory. -/
def store (tree : FileTree) (path : Path) (content : ByteArray) : Except IoFault FileTree := do
  let origin ← tree.start path
  if path.asksForDirectory then
    let _ ← tree.walk origin (path.trimmed.dropLast ++ [[]])
    throw .isADirectory
  let place ← tree.walk origin path.parts
  match tree.entry place with
  | some .directory => throw .isADirectory
  | _ => return tree.set place (.file content)

end FileTree

end CodeBlocks
