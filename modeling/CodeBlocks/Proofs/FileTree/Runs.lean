/-
**Runs of writes.**

Files are written one after the other, each into the tree that the one before left behind.  A call
that goes through changes the file at the location of its path, and besides that a call does nothing
but make directories above its path.  Nothing is removed, so a path that has a location keeps it,
and different paths can be compared by the locations that they have in the end.  At each location
stands what the last call for it left there.

Main definitions:

* `CodeBlocks.OutputFile.Effect` — what one call does;
* `CodeBlocks.OutputFile.IsTorn` — a disk fell short of the content of a file;
* `CodeBlocks.OutputFile.writeEach` — a run of calls;
* `CodeBlocks.OutputFile.WroteTo`, `CodeBlocks.OutputFile.LastWins` — the calls for a location, and
  that the last of them counts.

Main results:

* `CodeBlocks.OutputFile.writeOn_cases` — **a call does one of three things**, on any disk;
* `CodeBlocks.OutputFile.write_effect` — what this comes to for the tree;
* `CodeBlocks.OutputFile.writeOn_of_error`, `CodeBlocks.OutputFile.writeOn_of_ok` — what a call
  leaves behind on a disk that can fail;
* `CodeBlocks.OutputFile.writeEach_lastWins` — **the last call for a location counts**, along a
  whole run.
-/
import CodeBlocks.Proofs.FileTree.NoClobber

set_option relaxedAutoImplicit false
set_option autoImplicit false

namespace CodeBlocks.OutputFile

open FileTree (Retains)

variable {tree : FileTree} {location : Location} {file : OutputFile}

/-! ### One call -/

/-- The directories that a file gets around it are those of paths above its own. -/
theorem surroundings_made (file : OutputFile) (tree : FileTree) (location : Location) :
    (file.surroundings tree).entry location = tree.entry location ∨
      ∃ outer : Path, outer.IsAbove file.place ∧
        (file.surroundings tree).resolve outer = .ok location := by
  unfold surroundings
  split
  case h_1 parent found =>
    rcases tree.makeDirectories_made (Path.isTidy_of_parent? found) location with
      same | ⟨outer, stages, leads⟩
    · exact Or.inl same
    · exact Or.inr ⟨outer, ⟨parent, found, stages⟩, leads⟩
  case h_2 => exact Or.inl rfl

/-- **A call does one of three things**: it gives way and leaves everything as it is, or it fails
among the surroundings of the file, or it stores there what the disk takes. -/
theorem writeOn_cases (disk : Disk) (file : OutputFile) (tree : FileTree) :
    (file.overwrite = .ifMissing ∧ file.isPresent tree = true ∧
        file.writeOn disk tree = (.ok .skipped, tree)) ∨
      (∃ fault, file.writeOn disk tree = (.error fault, file.surroundings tree)) ∨
      ∃ place, (file.surroundings tree).resolve file.place = .ok place ∧
        (file.surroundings tree).entry place ≠ some .directory ∧
        file.writeOn disk tree =
          ((disk.outcome file.place file.content.toUTF8).map fun _ => .written,
            (file.surroundings tree).set place
              (.file (disk.taken file.place file.content.toUTF8))) := by
  unfold writeOn
  split_ifs with gives
  · obtain ⟨giving, present⟩ := Bool.and_eq_true_iff.1 gives
    exact Or.inl ⟨of_decide_eq_true giving, present, rfl⟩
  · rcases putOn_cases disk file tree with ⟨fault, failed⟩ | ⟨after, stored, done⟩
    · rw [failed]
      exact Or.inr (Or.inl ⟨fault, rfl⟩)
    · rw [done]
      obtain ⟨starts, _, place, leads, free, rfl⟩ := FileTree.store_eq_ok stored
      obtain ⟨fits, named, _⟩ := FileTree.start_eq_ok_iff.1 starts
      exact Or.inr (Or.inr ⟨place, FileTree.resolve_eq_ok_iff.2 ⟨fits, named, leads⟩, free, rfl⟩)

/-- The same on a disk that takes everything. -/
theorem write_cases (file : OutputFile) (tree : FileTree) :
    (file.overwrite = .ifMissing ∧ file.isPresent tree = true ∧
        file.write tree = (.ok .skipped, tree)) ∨
      (∃ fault, file.write tree = (.error fault, file.surroundings tree)) ∨
      ∃ place, (file.surroundings tree).resolve file.place = .ok place ∧
        (file.surroundings tree).entry place ≠ some .directory ∧
        file.write tree =
          (.ok .written, (file.surroundings tree).set place (.file file.content.toUTF8)) :=
  writeOn_cases .roomy file tree

/-- **What one call does to a tree**, by its outcome. -/
structure Effect (file : OutputFile) (before : FileTree) (outcome : Except IoFault WriteResult)
    (after : FileTree) : Prop where
  /-- A file that is skipped changes nothing. -/
  skipped : outcome = .ok .skipped → after = before
  /-- A failure leaves every file as it was, and makes none. -/
  failed : ∀ fault, outcome = .error fault → ∀ location content,
    after.entry location = some (.file content) ↔ before.entry location = some (.file content)
  /-- A file that is written stands at the location of its path, and no other file changes. -/
  written : outcome = .ok .written →
    ∃ place, after.resolve file.place = .ok place ∧
      after.entry place = some (.file file.content.toUTF8) ∧
      ∀ location, location ≠ place → ∀ content,
        after.entry location = some (.file content) ↔ before.entry location = some (.file content)
  /-- Nothing is removed. -/
  retained : before.Retains after
  /-- What is new at any other location is a directory, at that of a path above. -/
  made : ∀ location, after.entry location ≠ before.entry location →
    (outcome = .ok .written ∧ after.resolve file.place = .ok location) ∨
      before.entry location = none ∧ after.entry location = some .directory ∧
        ∃ outer : Path, outer.IsAbove file.place ∧ after.resolve outer = .ok location
  /-- Right after it is written, a file gives way to what is there. -/
  again : outcome = .ok .written → ∀ content,
    (OutputFile.mk file.path content .ifMissing).write after = (.ok .skipped, after)

/-- A new directory among the surroundings is that of a path above. -/
theorem directory_of_made (file : OutputFile)
    (new : (file.surroundings tree).entry location ≠ tree.entry location) :
    tree.entry location = none ∧ (file.surroundings tree).entry location = some .directory ∧
      ∃ outer : Path, outer.IsAbove file.place ∧
        (file.surroundings tree).resolve outer = .ok location := by
  obtain ⟨missing, directory⟩ :=
    ((file.surroundings_grows tree).entry location).resolve_left new
  exact ⟨missing, directory, (file.surroundings_made tree location).resolve_left new⟩

/-- What is found at its path makes a file give way. -/
theorem write_of_find {content : String} {held : FileEntry}
    (found : tree.find file.place = .ok held) :
    (OutputFile.mk file.path content .ifMissing).write tree = (.ok .skipped, tree) := by
  refine write_of_present rfl ?_
  have same : (OutputFile.mk file.path content .ifMissing).place = file.place := rfl
  unfold isPresent FileTree.contains
  rw [same, found]
  rfl

/-- **What a call does to a tree**, whatever becomes of the file. -/
theorem write_effect (file : OutputFile) (tree : FileTree) :
    file.Effect tree (file.write tree).1 (file.write tree).2 := by
  have grows := file.surroundings_grows tree
  rcases write_cases file tree with ⟨_, _, done⟩ | ⟨fault, done⟩ | ⟨place, leads, free, done⟩
  · rw [done]
    exact ⟨fun _ => rfl, nofun, nofun, .refl tree, fun _ new => absurd rfl new, nofun⟩
  · rw [done]
    refine ⟨nofun, ?_, nofun, grows.retains, ?_, nofun⟩
    · intro _ _ location content
      exact grows.file_iff
    · intro location new
      exact Or.inr (directory_of_made file new)
  · rw [done]
    have stored := FileTree.set_file_retains free file.content.toUTF8
    obtain ⟨resolves, stands⟩ := FileTree.resolve_set_file leads free file.content.toUTF8
    refine ⟨nofun, nofun, ?_, grows.retains.trans stored, ?_, ?_⟩
    · intro _
      refine ⟨place, resolves, stands, ?_⟩
      intro location other content
      rw [FileTree.entry_set_of_ne _ _ other]
      exact grows.file_iff
    · intro location new
      by_cases same : location = place
      · rw [same]
        exact Or.inl ⟨rfl, resolves⟩
      · rw [FileTree.entry_set_of_ne _ _ same] at new ⊢
        obtain ⟨missing, directory, outer, above, found⟩ := directory_of_made file new
        exact Or.inr ⟨missing, directory, outer, above, stored.resolve_ok found⟩
    · intro _ content
      exact write_of_find (FileTree.find_of_resolve resolves stands)

/-! ### Disks that fail -/

/-- **A file that is torn**: it was opened, and then the disk fell short, so it holds the first
bytes of its content and no more.  No other file changes. -/
def IsTorn (file : OutputFile) (count : Nat) (before after : FileTree) : Prop :=
  ∃ place, after.resolve file.place = .ok place ∧
    after.entry place = some (.file (file.content.toUTF8.extract 0 count)) ∧
    ∀ location, location ≠ place → ∀ content,
      after.entry location = some (.file content) ↔ before.entry location = some (.file content)

/-- **A call that fails** leaves all files as they were, unless its disk falls short and tears its
own one. -/
theorem writeOn_of_error {disk : Disk} {fault : IoFault} {after : FileTree}
    (failed : file.writeOn disk tree = (.error fault, after)) :
    (∀ location content, after.entry location = some (.file content) ↔
        tree.entry location = some (.file content)) ∨
      ∃ short, disk.shortfall? file.place file.content.toUTF8 = some short ∧
        file.IsTorn short.count tree after := by
  have grows := file.surroundings_grows tree
  rcases writeOn_cases disk file tree with ⟨_, _, done⟩ | ⟨_, done⟩ | ⟨place, leads, free, done⟩
  · rw [done] at failed
    cases failed
  · rw [done] at failed
    obtain ⟨_, rfl⟩ := Prod.mk.inj failed
    exact Or.inl fun location content => grows.file_iff
  · rw [done] at failed
    obtain ⟨outcome, rfl⟩ := Prod.mk.inj failed
    cases went : disk.outcome file.place file.content.toUTF8 with
    | ok =>
        rw [went] at outcome
        cases outcome
    | error fault =>
        obtain ⟨short, fell, took⟩ := Disk.taken_of_error went
        rw [took]
        obtain ⟨resolves, stands⟩ := FileTree.resolve_set_file leads free
          (file.content.toUTF8.extract 0 short.count)
        refine Or.inr ⟨short, fell, place, resolves, stands, ?_⟩
        intro location other content
        rw [FileTree.entry_set_of_ne _ _ other]
        exact grows.file_iff

/-- **A call that goes through**, for a file that does not give way: its path leads to
the content. -/
theorem writeOn_of_ok {disk : Disk} {result : WriteResult} {after : FileTree}
    (stays : file.overwrite = .always) (wrote : file.writeOn disk tree = (.ok result, after)) :
    result = .written ∧ after.find file.place = .ok (.file file.content.toUTF8) := by
  rcases writeOn_cases disk file tree with ⟨giving, _, _⟩ | ⟨_, done⟩ | ⟨place, leads, free, done⟩
  · rw [stays] at giving
    cases giving
  · rw [done] at wrote
    cases wrote
  · rw [done] at wrote
    obtain ⟨outcome, rfl⟩ := Prod.mk.inj wrote
    cases went : disk.outcome file.place file.content.toUTF8 with
    | error fault =>
        rw [went] at outcome
        cases outcome
    | ok =>
        rw [went] at outcome
        rw [Disk.taken_of_ok went]
        obtain ⟨resolves, stands⟩ := FileTree.resolve_set_file leads free file.content.toUTF8
        exact ⟨(Except.ok.inj outcome).symm, FileTree.find_of_resolve resolves stands⟩

/-! ### Runs -/

/-- **A run of calls**, each on the tree that the one before left: the files with what became of
them, and the tree in the end. -/
def writeEach : List OutputFile → FileTree →
    List (OutputFile × Except IoFault WriteResult) × FileTree
  | [], tree => ([], tree)
  | file :: files, tree =>
    let (outcome, after) := file.write tree
    let (outcomes, final) := writeEach files after
    ((file, outcome) :: outcomes, final)

theorem writeEach_cons (file : OutputFile) (files : List OutputFile) (tree : FileTree) :
    writeEach (file :: files) tree =
      ((file, (file.write tree).1) :: (writeEach files (file.write tree).2).1,
        (writeEach files (file.write tree).2).2) := rfl

/-- **Nothing is removed along a run.** -/
theorem writeEach_retains (files : List OutputFile) (tree : FileTree) :
    tree.Retains (writeEach files tree).2 := by
  induction files generalizing tree with
  | nil => exact .refl tree
  | cons file files ih =>
      rw [writeEach_cons]
      exact (write_effect file tree).retained.trans (ih _)

/-- **The call wrote the file at a location**, in the tree in which its path is looked up. -/
def WroteTo (tree : FileTree) (location : Location)
    (call : OutputFile × Except IoFault WriteResult) : Prop :=
  call.2 = .ok .written ∧ tree.resolve call.1.place = .ok location

/-- **The last call for a location counts.**  The file there holds its content, and if there is no
such call, what it held before the run; then no file is there either if none was. -/
def LastWins (before : FileTree) (calls : List (OutputFile × Except IoFault WriteResult))
    (final : FileTree) (location : Location) : Prop :=
  (∃ front call back, calls = front ++ call :: back ∧ WroteTo final location call ∧
      (∀ other ∈ back, ¬ WroteTo final location other) ∧
      final.entry location = some (.file call.1.content.toUTF8)) ∨
    (∀ other ∈ calls, ¬ WroteTo final location other) ∧
      ∀ content, final.entry location = some (.file content) ↔
        before.entry location = some (.file content)

/-- A call that did not write to a location left the file there as it was. -/
theorem Effect.file_iff {outcome : Except IoFault WriteResult} {after final : FileTree}
    (effect : file.Effect tree outcome after) (retains : after.Retains final)
    (other : ¬ WroteTo final location (file, outcome)) (content : ByteArray) :
    after.entry location = some (.file content) ↔
      tree.entry location = some (.file content) := by
  cases outcome with
  | error fault => exact effect.failed fault rfl location content
  | ok result =>
      cases result with
      | skipped => rw [effect.skipped rfl]
      | written =>
          obtain ⟨place, leads, _, apart⟩ := effect.written rfl
          refine apart location ?_ content
          rintro rfl
          exact other ⟨rfl, retains.resolve_ok leads⟩

/-- **The last call for a location counts**, along a whole run. -/
theorem writeEach_lastWins (files : List OutputFile) (tree : FileTree) (location : Location) :
    LastWins tree (writeEach files tree).1 (writeEach files tree).2 location := by
  induction files generalizing tree with
  | nil => exact Or.inr ⟨nofun, fun _ => Iff.rfl⟩
  | cons file files ih =>
      have effect := write_effect file tree
      have retains := writeEach_retains files (file.write tree).2
      rw [writeEach_cons]
      rcases ih (file.write tree).2 with ⟨front, call, back, split, wrote, last, stands⟩ |
        ⟨none, same⟩
      · exact Or.inl ⟨_ :: front, call, back, congrArg (_ :: ·) split, wrote, last, stands⟩
      -- No later call is for the location, so it is for this one to decide.
      · by_cases here : WroteTo (writeEach files (file.write tree).2).2 location
            (file, (file.write tree).1)
        · refine Or.inl ⟨[], _, _, rfl, here, none, (same _).2 ?_⟩
          obtain ⟨place, leads, stands, _⟩ := effect.written here.1
          have there := here.2.symm.trans (retains.resolve_ok leads)
          rw [Except.ok.inj there]
          exact stands
        · refine Or.inr ⟨?_, fun content => (same content).trans
            (effect.file_iff retains here content)⟩
          intro other member
          rcases List.mem_cons.1 member with rfl | member
          · exact here
          · exact none other member

/-- **What a run of calls does.**  At every location the last call for it counts, nothing is
removed, and each call along the run has the effect of its outcome. -/
theorem writeEach_effects (files : List OutputFile) (tree : FileTree) :
    (∀ location, LastWins tree (writeEach files tree).1 (writeEach files tree).2 location) ∧
      tree.Retains (writeEach files tree).2 ∧
      ∀ (file : OutputFile) (before : FileTree),
        file.Effect before (file.write before).1 (file.write before).2 :=
  ⟨writeEach_lastWins files tree, writeEach_retains files tree, write_effect⟩

/-- Two spellings of a path are one location, and the last call that wrote there counts. -/
example :
    ((writeEach [⟨"a/f", "1", .always⟩, ⟨"a/../a/./f", "2", .always⟩, ⟨"a/f", "3", .ifMissing⟩]
      .empty).2.readText (.ofText "a/f")).toOption = some "2" := by
  decide +kernel

end CodeBlocks.OutputFile
