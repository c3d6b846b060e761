/-
**Files that give way.**

A file that gives way to anything at its path asks whether something is there, and only then makes
the directories around it.  A path can turn back with two dots from a directory that is missing:
before that directory is made nothing is found at the path, and afterwards there is.  What the path
then leads to is overwritten.  Here it is said for which paths this happens, and that in a sound
tree a path has to turn back for it.

Main definitions:

* `CodeBlocks.FileTree.LandsAt` — where a file goes once all that is missing is made;
* `CodeBlocks.FileTree.KeepsFiles` — every file there was holds what it held;
* `CodeBlocks.OutputFile.Clobbers` — nothing is found at the path, and it lands at another file.

Main results:

* `CodeBlocks.OutputFile.put_of_landsAt`, `CodeBlocks.OutputFile.entry_put` — **of the files there
  were, putting changes just the one at which it lands**;
* `CodeBlocks.FileTree.keepsFiles_iff_not_clobbers` — **what a file that gives way leaves alone**,
  by itself and as the output of an order;
* `CodeBlocks.OutputFile.Clobbers.turns_back` — a path without two dots clobbers nothing.
-/
import CodeBlocks.Generation
import CodeBlocks.Proofs.FileTree.Soundness

set_option relaxedAutoImplicit false
set_option autoImplicit false

namespace CodeBlocks

variable {tree : FileTree} {location : Location} {file : OutputFile}
  {old : ByteArray}

/-! ### Where files go -/

namespace FileTree

/-- **Where a file goes once all that is missing is made.**  The path is one for a file, and it
starts from a directory. -/
structure LandsAt (tree : FileTree) (path : Path) (location : Location) : Prop where
  starts : tree.start path = .ok (tree.origin path)
  start : tree.entry (tree.origin path) = some .directory
  last : path.asksForDirectory = false
  leads : tree.passage? (tree.origin path) path.parts = some location

/-- **Every file there was holds what it held.** -/
def KeepsFiles (before after : FileTree) : Prop :=
  ∀ location content, before.entry location = some (.file content) →
    after.entry location = some (.file content)

theorem KeepsFiles.refl (tree : FileTree) : tree.KeepsFiles tree := fun _ _ stands => stands

end FileTree

/-! ### Putting files -/

namespace OutputFile

/-- The tree once the directories around a file are made. -/
def surroundings (file : OutputFile) (tree : FileTree) : FileTree :=
  match file.place.parent? with
  | some parent => (tree.makeDirectories parent).2
  | none => tree

theorem surroundings_grows (file : OutputFile) (tree : FileTree) :
    tree.Grows (file.surroundings tree) := by
  unfold surroundings
  split
  case h_1 parent found => exact tree.makeDirectories_grows (Path.isTidy_of_parent? found)
  case h_2 => exact .refl tree

theorem surroundings_of_lost (lost : tree.entry (tree.origin file.place) ≠ some .directory) :
    file.surroundings tree = tree := by
  unfold surroundings
  split
  case h_1 parent found =>
    rw [← FileTree.origin_parent? tree found] at lost
    exact FileTree.makeDirectories_of_lost (Path.isTidy_of_parent? found) lost
  case h_2 => rfl

theorem surroundings_isSound (file : OutputFile) (sound : tree.IsSound) :
    (file.surroundings tree).IsSound := by
  unfold surroundings
  split
  case h_1 parent found => exact sound.makeDirectories (Path.isTidy_of_parent? found)
  case h_2 => exact sound

/-- **What putting a file does**: it fails among its surroundings, or what the disk takes is stored
there. -/
theorem putOn_cases (disk : Disk) (file : OutputFile) (tree : FileTree) :
    (∃ fault, file.putOn disk tree = (.error fault, file.surroundings tree)) ∨
      ∃ after, (file.surroundings tree).store file.place
          (disk.taken file.place file.content.toUTF8) = .ok after ∧
        file.putOn disk tree = (disk.outcome file.place file.content.toUTF8, after) := by
  unfold putOn FileTree.storeOn surroundings
  cases file.place.parent? with
  | none =>
      dsimp only
      cases tree.store file.place (disk.taken file.place file.content.toUTF8) with
      | error fault => exact Or.inl ⟨fault, rfl⟩
      | ok after => exact Or.inr ⟨after, rfl, rfl⟩
  | some parent =>
      dsimp only
      cases (tree.makeDirectories parent).1 with
      | error fault => exact Or.inl ⟨fault, rfl⟩
      | ok =>
          dsimp only
          cases (tree.makeDirectories parent).2.store file.place
            (disk.taken file.place file.content.toUTF8) with
          | error fault => exact Or.inl ⟨fault, rfl⟩
          | ok after => exact Or.inr ⟨after, rfl, rfl⟩

theorem put_cases (file : OutputFile) (tree : FileTree) :
    (∃ fault, file.put tree = (.error fault, file.surroundings tree)) ∨
      ∃ after, (file.surroundings tree).store file.place file.content.toUTF8 = .ok after ∧
        file.put tree = (.ok (), after) :=
  putOn_cases .roomy file tree

/-- **A file that stays, or the one at which the path lands**: putting changes no other. -/
theorem entry_put (file : OutputFile) (stands : tree.entry location = some (.file old)) :
    (file.put tree).2.entry location = some (.file old) ∨ tree.LandsAt file.place location := by
  have grows := file.surroundings_grows tree
  have still := grows.entry_of_some stands
  rcases put_cases file tree with ⟨fault, failed⟩ | ⟨after, stored, done⟩
  · rw [failed]
    exact Or.inl still
  · rw [done]
    obtain ⟨starts, last, place, leads, _, rfl⟩ := FileTree.store_eq_ok stored
    by_cases same : location = place
    · subst same
      rw [grows.retains.origin_eq] at starts leads
      obtain ⟨fits, named, _⟩ := FileTree.start_eq_ok_iff.1 starts
      refine Or.inr ⟨FileTree.start_eq_ok_iff.2 ⟨fits, named, rfl⟩, ?_, last, ?_⟩
      -- Nothing was made if there was no directory to start from, so the walk would fail as well.
      · by_contra lost
        rw [surroundings_of_lost lost] at leads
        exact lost (FileTree.entry_origin_of_walk named leads)
      · exact grows.passage?_eq_some_iff.1 (FileTree.passage?_of_walk leads)
    · rw [FileTree.entry_set_of_ne _ _ same]
      exact Or.inl still

/-- **The file at which the path lands is overwritten.** -/
theorem put_of_landsAt (lands : tree.LandsAt file.place location)
    (stands : tree.entry location = some (.file old)) :
    ∃ after, file.put tree = (.ok (), after) ∧
      after.entry location = some (.file file.content.toUTF8) := by
  obtain ⟨starts, start, last, leads⟩ := lands
  obtain ⟨fits, named, _⟩ := FileTree.start_eq_ok_iff.1 starts
  have below : location ≠ [] := by
    rintro rfl
    cases stands
  have onlyFile : tree.entry location ≠ some .directory := by
    rw [stands]
    nofun
  -- The path leads away from where it starts, so it has a name, and nothing stands behind it.
  have parts : ∃ part ∈ file.place.parts, Path.isIdle part = false := by
    by_contra idle
    obtain rfl := FileTree.passage?_idle leads (by simpa using idle)
    exact onlyFile start
  obtain ⟨parent, between, name, behind, found, whole, _, idle, idleBehind⟩ :=
    Path.exists_parent? parts
  rw [whole, FileTree.passage?_append_eq_some_iff] at leads
  obtain ⟨middle, first, second⟩ := leads
  -- A part behind the name would ask for a directory, but a file stands there.
  obtain rfl : behind = [] := by
    by_contra further
    rw [List.append_cons, FileTree.passage?_append_eq_some_iff] at second
    obtain ⟨next, _, rest⟩ := second
    obtain rfl := FileTree.passage?_idle rest idleBehind
    exact FileTree.isPassable_of_passage? rest further old stands
  rw [← FileTree.origin_parent? tree found] at first start
  obtain ⟨grown, above, grows, reached, directory⟩ :=
    FileTree.makeDirectories_of_passage? (fits.parent found) (Path.isTidy_of_parent? found) start
      first (FileTree.isPassable_of_passage? second (by simp))
  have onward : grown.walk (grown.origin file.place) file.place.parts = .ok location := by
    rw [grows.retains.origin_eq, whole, ← FileTree.origin_parent? tree found,
      FileTree.walk_append_of_ok reached]
    exact FileTree.walk_last directory idle second
  have stored := FileTree.store_of_walk file.content.toUTF8
    (FileTree.start_eq_ok_iff.2 ⟨fits, named, rfl⟩) last onward (grows.entry_of_some stands)
  refine ⟨_, ?_, FileTree.entry_set_self grown _ below⟩
  rw [put_eq, found]
  dsimp only
  rw [above]
  dsimp only
  rw [stored]

/-! ### Files that give way -/

/-- **A file that clobbers another**: nothing is found at its path, and the path lands at a file
that holds something else. -/
def Clobbers (file : OutputFile) (tree : FileTree) : Prop :=
  file.isPresent tree = false ∧
    ∃ location old, tree.LandsAt file.place location ∧
      tree.entry location = some (.file old) ∧ old ≠ file.content.toUTF8

theorem write_of_absent (absent : file.isPresent tree = false) :
    file.write tree = ((file.put tree).1.map fun _ => .written, (file.put tree).2) := by
  rw [write_eq]
  rw [absent, Bool.and_false]
  rfl

theorem write_of_present (givesWay : file.overwrite = .ifMissing)
    (present : file.isPresent tree = true) : file.write tree = (.ok .skipped, tree) := by
  rw [write_eq]
  rw [givesWay, present]
  rfl

/-- A file that clobbers another is written, and the other one no longer holds what it held. -/
theorem write_of_clobbers (clobbers : file.Clobbers tree) :
    (file.write tree).1 = .ok .written ∧ ¬ tree.KeepsFiles (file.write tree).2 := by
  obtain ⟨absent, location, old, lands, stands, other⟩ := clobbers
  obtain ⟨after, done, holds⟩ := put_of_landsAt lands stands
  rw [write_of_absent absent, done]
  refine ⟨rfl, ?_⟩
  intro keeps
  have same := (keeps location old stands).symm.trans holds
  exact other (FileEntry.file.inj (Option.some.inj same))

/-- **A file that gives way and clobbers nothing** leaves every file as it was. -/
theorem keepsFiles_of_not_clobbers (givesWay : file.overwrite = .ifMissing)
    (harmless : ¬ file.Clobbers tree) : tree.KeepsFiles (file.write tree).2 := by
  intro location old stands
  cases absent : file.isPresent tree with
  | true =>
      rw [write_of_present givesWay absent]
      exact stands
  | false =>
      rw [write_of_absent absent]
      rcases entry_put file stands with stays | lands
      · exact stays
      · obtain ⟨after, done, holds⟩ := put_of_landsAt lands stands
        have same : old = file.content.toUTF8 := by
          by_contra other
          exact harmless ⟨absent, location, old, lands, stands, other⟩
        rw [done, same]
        exact holds

theorem keepsFiles_iff (givesWay : file.overwrite = .ifMissing) :
    tree.KeepsFiles (file.write tree).2 ↔ ¬ file.Clobbers tree :=
  ⟨fun keeps clobbers => (write_of_clobbers clobbers).2 keeps,
    keepsFiles_of_not_clobbers givesWay⟩

/-! ### Turning back -/

/-- Something is missing on the way to where a file lands that clobbers another. -/
theorem Clobbers.misses (clobbers : file.Clobbers tree) :
    tree.walk (tree.origin file.place) file.place.parts = .error .notFound := by
  obtain ⟨absent, location, old, lands, stands, _⟩ := clobbers
  rcases FileTree.walk_of_passage? lands.leads with found | missing
  · have present : file.isPresent tree = true := by
      unfold isPresent FileTree.contains FileTree.find FileTree.resolve
      rw [lands.starts]
      simp [bind, Except.bind, found, stands, pure, Except.pure, Except.toBool]
    rw [absent] at present
    cases present
  · exact missing

/-- **A file turns back from what is missing** if it clobbers another in a sound tree. -/
theorem Clobbers.turns_back (sound : tree.IsSound) (clobbers : file.Clobbers tree) :
    ['.', '.'] ∈ file.place.parts := by
  have missing := clobbers.misses
  obtain ⟨_, location, old, lands, stands, _⟩ := clobbers
  by_contra straight
  rw [sound.walk_of_passage? straight lands.leads stands] at missing
  cases missing

/-- **Writing keeps a tree sound**, whatever becomes of the file. -/
theorem write_isSound (file : OutputFile) (sound : tree.IsSound) :
    (file.write tree).2.IsSound := by
  rw [write_eq]
  split_ifs
  · exact sound
  · rcases put_cases file tree with ⟨fault, failed⟩ | ⟨after, stored, done⟩
    · rw [failed]
      exact file.surroundings_isSound sound
    · rw [done]
      exact (file.surroundings_isSound sound).store stored

end OutputFile

/-! ### Orders -/

/-- The file that an order comes to, if it comes to one. -/
def Manifest.output? (manifest : Manifest) (order : Order) : Option OutputFile :=
  match manifest.generate order.blocks order.level with
  | .error _ => none
  | .ok generation => order.file? generation.code

/-- **An order changes a tree by the file it comes to**, and else not at all. -/
theorem Manifest.fulfil_tree (manifest : Manifest) (order : Order) (tree : FileTree) :
    (manifest.fulfil order tree).2 =
      match manifest.output? order with
      | none => tree
      | some file => (file.write tree).2 := by
  rw [Manifest.fulfil_eq]
  unfold Manifest.output?
  cases manifest.generate order.blocks order.level with
  | error fault => rfl
  | ok generation =>
      dsimp only
      cases order.file? generation.code with
      | none => rfl
      | some file =>
          dsimp only
          obtain ⟨done, after⟩ := file.write tree
          cases done <;> rfl

theorem Manifest.overwrite_of_output? {manifest : Manifest} {order : Order}
    (output : manifest.output? { order with noClobber := true } = some file) :
    file.overwrite = .ifMissing := by
  unfold Manifest.output? at output
  split at output
  · cases output
  · unfold Order.file? at output
    obtain ⟨path, _, rfl⟩ := Option.map_eq_some_iff.1 output
    rfl

/-- **What a file that gives way leaves alone**: every file there was, unless it clobbers one.  It
is the same if the file is the output of an order. -/
theorem FileTree.keepsFiles_iff_not_clobbers (tree : FileTree) :
    (∀ path content, tree.KeepsFiles ((OutputFile.mk path content .ifMissing).write tree).2 ↔
        ¬ (OutputFile.mk path content .ifMissing).Clobbers tree) ∧
      ∀ (manifest : Manifest) (order : Order),
        tree.KeepsFiles (manifest.fulfil { order with noClobber := true } tree).2 ↔
          ∀ file, manifest.output? { order with noClobber := true } = some file →
            ¬ file.Clobbers tree := by
  refine ⟨fun path content => OutputFile.keepsFiles_iff rfl, ?_⟩
  intro manifest order
  rw [Manifest.fulfil_tree]
  cases output : manifest.output? { order with noClobber := true } with
  | none => simpa using KeepsFiles.refl tree
  | some file =>
      have givesWay : file.overwrite = .ifMissing := Manifest.overwrite_of_output? output
      simpa using OutputFile.keepsFiles_iff givesWay

/-- The tree with one file in the directory that paths start from. -/
def FileTree.oneFile : FileTree := FileTree.empty.set ["f"] (.file "old".toUTF8)

/-- The directory that is missing gets made, and from there the path turns back to the file. -/
theorem OutputFile.write_turning_back :
    ((OutputFile.mk "missing/../f" "new" .ifMissing).write FileTree.oneFile).1 = .ok .written ∧
      ¬ FileTree.oneFile.KeepsFiles
        ((OutputFile.mk "missing/../f" "new" .ifMissing).write FileTree.oneFile).2 := by
  refine OutputFile.write_of_clobbers ⟨by decide, ["f"], "old".toUTF8, ⟨?_, rfl, ?_, ?_⟩, rfl, ?_⟩
  · decide
  · decide
  · decide
  · decide

end CodeBlocks
