/-
**Sound trees.**

In a sound tree whatever stands anywhere stands in a directory.  Making directories and storing
contents keep trees sound.  In a sound tree nothing is found behind what is missing, so a path can
get past it only by turning back.

Main definitions:

* `CodeBlocks.FileTree.IsSound` — what stands anywhere stands in a directory.

Main results:

* `CodeBlocks.FileTree.IsSound.makeDirectories`, `CodeBlocks.FileTree.IsSound.store` — **sound trees
  stay sound**;
* `CodeBlocks.FileTree.IsSound.walk_of_passage?` — **a passage that never turns back** and leads to
  something is a walk.
-/
import CodeBlocks.Proofs.FileTree.Growth

set_option relaxedAutoImplicit false
set_option autoImplicit false

namespace CodeBlocks.FileTree

variable {tree after : FileTree} {place location : Location}
  {parts : List (List Char)} {path : Path} {held : FileEntry}

/-- **A sound tree**: what stands anywhere stands in a directory. -/
def IsSound (tree : FileTree) : Prop :=
  ∀ location held, tree.entry location = some held → tree.entry location.tail = some .directory

theorem isSound_empty : empty.IsSound := by
  intro location held stands
  cases location with
  | nil => rfl
  | cons name place =>
      have nothing : empty.entry (name :: place) = none := by
        have below : ∀ names : List String, (Trie.empty : Trie FileEntry).get names = none := by
          intro names
          induction names with
          | nil => rfl
          | cons name names ih => exact ih
        exact below _
      rw [nothing] at stands
      cases stands

/-! ### Changing sound trees -/

/-- What is put into a directory, and not in place of one, keeps a tree sound. -/
theorem IsSound.set (sound : tree.IsSound) (above : tree.entry location.tail = some .directory)
    (free : tree.entry location ≠ some .directory) : (tree.set location held).IsSound := by
  have outside : location.tail ≠ location := by
    intro same
    rw [same] at above
    exact free above
  intro other held' stands
  by_cases same : other = location
  · rw [same, entry_set_of_ne tree held outside]
    exact above
  · rw [entry_set_of_ne tree held same] at stands
    have around := sound other held' stands
    -- Nothing stood inside of what is replaced, because it was no directory.
    have apart : other.tail ≠ location := by
      rintro rfl
      exact free around
    rwa [entry_set_of_ne tree held apart]

/-- A walk that does not end in a directory ends in what its last name says, inside of one. -/
theorem IsSound.above_of_walk (sound : tree.IsSound) (start : tree.entry place = some .directory)
    (leads : tree.walk place parts = .ok location)
    (free : tree.entry location ≠ some .directory) :
    tree.entry location.tail = some .directory := by
  induction parts generalizing place with
  | nil =>
      rw [walk_nil] at leads
      obtain rfl := Except.ok.inj leads
      exact absurd start free
  | cons part parts ih =>
      obtain ⟨_, next, turns, onward⟩ := walk_cons_eq_ok_iff.1 leads
      rcases turn?_cases turns with rfl | ⟨_, rfl⟩ | ⟨_, rfl⟩
      · exact ih start onward
      · exact ih (sound place .directory start) onward
      · cases parts with
        | nil =>
            rw [walk_nil] at onward
            obtain rfl := Except.ok.inj onward
            exact start
        | cons other parts =>
            exact ih (walk_cons_eq_ok_iff.1 onward).1 onward

/-- **Making directories keeps a tree sound**, also if it fails. -/
theorem IsSound.makeDirectories (sound : tree.IsSound) (tidy : path.IsTidy) :
    (tree.makeDirectories path).2.IsSound := by
  refine makeDirectories_keeps tidy ?_ sound
  intro grown larger stage tidy _ sound made
  obtain ⟨place, found, missing, rfl⟩ := makeDirectory_eq_ok tidy made
  obtain ⟨_, named, leads⟩ := resolve_eq_ok_iff.1 found
  have free : grown.entry place ≠ some .directory := by
    rw [missing]
    nofun
  exact sound.set (sound.above_of_walk (entry_origin_of_walk named leads) leads free) free

/-- **Storing a content keeps a tree sound.** -/
theorem IsSound.store (sound : tree.IsSound) {content : ByteArray}
    (stored : tree.store path content = .ok after) : after.IsSound := by
  obtain ⟨starts, _, place, leads, free, rfl⟩ := store_eq_ok stored
  obtain ⟨_, named, _⟩ := start_eq_ok_iff.1 starts
  exact sound.set (sound.above_of_walk (entry_origin_of_walk named leads) leads free) free

/-! ### Passages that never turn back -/

/-- **A passage that never turns back** and leads to something is a walk. -/
theorem IsSound.walk_of_passage? (sound : tree.IsSound) (straight : ['.', '.'] ∉ parts)
    (leads : tree.passage? place parts = some location)
    (stands : tree.entry location = some held) : tree.walk place parts = .ok location := by
  induction parts generalizing place with
  | nil => rw [walk_nil, Option.some.inj leads]
  | cons part parts ih =>
      obtain ⟨passable, next, turns, onward⟩ := passage?_cons_eq_some_iff.1 leads
      have further : tree.walk next parts = .ok location :=
        ih (fun back => straight (List.mem_cons_of_mem _ back)) onward
      have found : ∃ held, tree.entry next = some held := by
        cases parts with
        | nil =>
            obtain rfl := Option.some.inj onward
            exact ⟨held, stands⟩
        | cons other parts => exact ⟨.directory, (walk_cons_eq_ok_iff.1 further).1⟩
      obtain ⟨held', found⟩ := found
      -- What is found one turn ahead stands in the place, or it is the place.
      have directory : tree.entry place = some .directory := by
        rcases turn?_cases turns with rfl | ⟨back, _⟩ | ⟨_, rfl⟩
        · rcases isPassable_iff.1 passable with missing | directory
          · rw [missing] at found
            cases found
          · exact directory
        · exact absurd (back ▸ List.mem_cons_self ..) straight
        · exact sound _ held' found
      exact walk_cons_eq_ok_iff.2 ⟨directory, next, turns, further⟩

end CodeBlocks.FileTree
