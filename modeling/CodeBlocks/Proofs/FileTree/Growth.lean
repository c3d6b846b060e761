/-
**Trees that grow.**

Nothing is ever removed from a tree, so a walk that leads somewhere still does later.  Making a
directory with all that is missing above it adds directories, and does nothing else to the tree.
Where a passage leads, the directories are made, and a walk follows it then.

Main definitions:

* `CodeBlocks.FileTree.Retains` — directories and files are still there;
* `CodeBlocks.FileTree.Grows` — the one tree is the other with further directories.

Main results:

* `CodeBlocks.FileTree.Retains.resolve_ok` — **a path that has a location keeps it**;
* `CodeBlocks.FileTree.makeDirectories_grows` — **making directories lets a tree grow**, also if it
  fails;
* `CodeBlocks.FileTree.makeDirectories_made` — each new directory is that of a stage of the path;
* `CodeBlocks.FileTree.makeDirectories_of_passage?` — **where there is a passage the directories are
  made**, and a walk follows it;
* `CodeBlocks.FileTree.store_eq_ok`, `CodeBlocks.FileTree.store_of_walk` — what storing a content
  takes and does.
-/
import CodeBlocks.Proofs.FileTree.Passages

set_option relaxedAutoImplicit false
set_option autoImplicit false

namespace CodeBlocks.FileTree

variable {tree grown larger after : FileTree} {place location : Location}
  {part : List Char} {parts : List (List Char)} {path parent : Path} {old : ByteArray}

/-! ### Retention -/

/-- **Nothing is removed**: a directory still is one, and a file still is one, whatever it holds. -/
structure Retains (tree after : FileTree) : Prop where
  workingDirectory : after.workingDirectory = tree.workingDirectory
  directory : ∀ location, tree.entry location = some .directory →
    after.entry location = some .directory
  file : ∀ location content, tree.entry location = some (.file content) →
    ∃ other, after.entry location = some (.file other)

theorem Retains.refl (tree : FileTree) : tree.Retains tree :=
  ⟨rfl, fun _ stands => stands, fun _ content stands => ⟨content, stands⟩⟩

theorem Retains.trans (first : tree.Retains grown) (second : grown.Retains larger) :
    tree.Retains larger := by
  refine ⟨second.workingDirectory.trans first.workingDirectory, ?_, ?_⟩
  · intro location stands
    exact second.directory location (first.directory location stands)
  · intro location content stands
    obtain ⟨other, still⟩ := first.file location content stands
    exact second.file location other still

/-- A walk that leads somewhere still does. -/
theorem Retains.walk_ok (retains : tree.Retains after)
    (leads : tree.walk place parts = .ok location) : after.walk place parts = .ok location := by
  induction parts generalizing place with
  | nil =>
      rw [walk_nil] at leads ⊢
      exact leads
  | cons part parts ih =>
      obtain ⟨directory, next, turns, onward⟩ := walk_cons_eq_ok_iff.1 leads
      exact walk_cons_eq_ok_iff.2 ⟨retains.directory place directory, next, turns, ih onward⟩

theorem Retains.origin_eq (retains : tree.Retains after) (path : Path) :
    after.origin path = tree.origin path := by
  unfold origin
  rw [retains.workingDirectory]

/-- **A path that has a location keeps it.** -/
theorem Retains.resolve_ok (retains : tree.Retains after)
    (leads : tree.resolve path = .ok location) : after.resolve path = .ok location := by
  obtain ⟨fits, named, onward⟩ := resolve_eq_ok_iff.1 leads
  refine resolve_eq_ok_iff.2 ⟨fits, named, ?_⟩
  rw [retains.origin_eq]
  exact retains.walk_ok onward

theorem ne_root_of_free (free : tree.entry location ≠ some .directory) : location ≠ [] := by
  rintro rfl
  exact free rfl

/-- Where no directory stands, a file can come. -/
theorem set_file_retains (free : tree.entry location ≠ some .directory) (content : ByteArray) :
    tree.Retains (tree.set location (.file content)) := by
  have below := ne_root_of_free free
  refine ⟨rfl, ?_, ?_⟩
  · intro other stands
    have apart : other ≠ location := by
      rintro rfl
      exact free stands
    rw [entry_set_of_ne tree _ apart]
    exact stands
  · intro other held stands
    by_cases same : other = location
    · subst same
      exact ⟨content, entry_set_self tree _ below⟩
    · rw [entry_set_of_ne tree _ same]
      exact ⟨held, stands⟩

/-- A path that leads to where a file comes still leads there, and finds it. -/
theorem resolve_set_file (leads : tree.resolve path = .ok location)
    (free : tree.entry location ≠ some .directory) (content : ByteArray) :
    (tree.set location (.file content)).resolve path = .ok location ∧
      (tree.set location (.file content)).entry location = some (.file content) :=
  ⟨(set_file_retains free content).resolve_ok leads,
    entry_set_self tree _ (ne_root_of_free free)⟩

/-! ### Growth -/

/-- **The one tree is the other with further directories**, and nothing else about it is new. -/
structure Grows (tree grown : FileTree) : Prop where
  workingDirectory : grown.workingDirectory = tree.workingDirectory
  entry : ∀ location, grown.entry location = tree.entry location ∨
    tree.entry location = none ∧ grown.entry location = some .directory

theorem Grows.refl (tree : FileTree) : tree.Grows tree := ⟨rfl, fun _ => Or.inl rfl⟩

theorem Grows.trans (first : tree.Grows grown) (second : grown.Grows larger) :
    tree.Grows larger := by
  refine ⟨second.workingDirectory.trans first.workingDirectory, ?_⟩
  intro location
  rcases second.entry location with same | ⟨missing, made⟩
  · rw [same]
    exact first.entry location
  · rcases first.entry location with same | ⟨_, directory⟩
    · exact Or.inr ⟨same ▸ missing, made⟩
    · rw [missing] at directory
      cases directory

theorem Grows.entry_of_some (grows : tree.Grows grown) {held : FileEntry}
    (stands : tree.entry location = some held) : grown.entry location = some held := by
  rcases grows.entry location with same | ⟨missing, _⟩
  · rw [same, stands]
  · rw [missing] at stands
    cases stands

/-- No file is new. -/
theorem Grows.file_iff (grows : tree.Grows grown) {content : ByteArray} :
    grown.entry location = some (.file content) ↔ tree.entry location = some (.file content) := by
  refine ⟨fun stands => ?_, grows.entry_of_some⟩
  rcases grows.entry location with same | ⟨_, directory⟩
  · rwa [same] at stands
  · rw [directory] at stands
    cases stands

theorem Grows.isPassable_iff (grows : tree.Grows grown) :
    grown.IsPassable location ↔ tree.IsPassable location :=
  forall_congr' fun _ => not_congr grows.file_iff

/-- A passage leads to the same place in both trees. -/
theorem Grows.passage?_eq_some_iff (grows : tree.Grows grown) :
    grown.passage? place parts = some location ↔ tree.passage? place parts = some location := by
  induction parts generalizing place with
  | nil => rfl
  | cons part parts ih =>
      simp only [passage?_cons_eq_some_iff, grows.isPassable_iff, ih]

theorem Grows.retains (grows : tree.Grows grown) : tree.Retains grown :=
  ⟨grows.workingDirectory, fun _ stands => grows.entry_of_some stands,
    fun _ content stands => ⟨content, grows.entry_of_some stands⟩⟩

theorem set_directory_grows (missing : tree.entry location = none) :
    tree.Grows (tree.set location .directory) := by
  have below : location ≠ [] := by
    rintro rfl
    cases missing
  refine ⟨rfl, ?_⟩
  intro other
  by_cases same : other = location
  · subst same
    exact Or.inr ⟨missing, entry_set_self tree .directory below⟩
  · exact Or.inl (entry_set_of_ne tree .directory same)

/-! ### Making directories -/

/-- Making a tidy path's directory, once its text is one for a path. -/
theorem makeDirectory_eq (fits : path.Fits) (tidy : path.IsTidy) (named : path.text ≠ "") :
    tree.makeDirectory path =
      (tree.walk (tree.origin path) path.parts).bind fun place =>
        match tree.entry place with
        | some _ => .error .alreadyExists
        | none => .ok (tree.set place .directory) := by
  unfold makeDirectory
  rw [start_eq_ok_iff.2 ⟨fits, named, rfl⟩, tidy.trimmed_eq]
  rfl

/-- What it takes to make a directory, and what it does. -/
theorem makeDirectory_eq_ok (tidy : path.IsTidy) (made : tree.makeDirectory path = .ok larger) :
    ∃ place, tree.resolve path = .ok place ∧ tree.entry place = none ∧
      larger = tree.set place .directory := by
  cases starts : tree.start path with
  | error fault =>
      unfold makeDirectory at made
      rw [starts] at made
      cases made
  | ok origin =>
      obtain ⟨fits, named, _⟩ := start_eq_ok_iff.1 starts
      rw [makeDirectory_eq fits tidy named] at made
      cases leads : tree.walk (tree.origin path) path.parts with
      | error fault =>
          rw [leads] at made
          cases made
      | ok place =>
          rw [leads] at made
          cases held : tree.entry place with
          | some held => simp [Except.bind, held] at made
          | none =>
              refine ⟨place, resolve_eq_ok_iff.2 ⟨fits, named, leads⟩, held, ?_⟩
              simpa [Except.bind, held, eq_comm] using made

theorem ensureDirectory_cases (made : tree.ensureDirectory path = .ok larger) :
    tree.makeDirectory path = .ok larger ∨ larger = tree := by
  unfold ensureDirectory at made
  split at made
  case h_1 other made' => exact Or.inl (made'.trans made)
  case h_2 =>
    split at made
    · exact Or.inr (Except.ok.inj made).symm
    · cases made

/-- **What making one directory keeps, making directories keeps**, also if it fails on the way.
All of them are stages of the path. -/
theorem makeDirectories_keeps {kept : FileTree → Prop} (tidy : path.IsTidy)
    (one : ∀ (grown larger : FileTree) (stage : Path), stage.IsTidy → stage.IsStageOf path →
      kept grown → grown.makeDirectory stage = .ok larger → kept larger)
    (start : kept tree) : kept (tree.makeDirectories path).2 := by
  -- The induction goes up along the parents, so it ends where the first directory is made.
  fun_induction makeDirectories tree path with
  | case1 => exact start
  | case2 path _ larger made => exact one tree larger path tidy .self start made
  | case3 => exact start
  | case4 path _ _ parent found fault grown failed ih =>
      rw [failed] at ih
      exact ih (Path.isTidy_of_parent? found) fun grown larger stage tidy stages =>
        one grown larger stage tidy (.further found stages)
  | case5 path _ _ parent found grown above larger made ih =>
      rw [above] at ih
      have keptAbove : kept grown :=
        ih (Path.isTidy_of_parent? found) fun grown larger stage tidy stages =>
          one grown larger stage tidy (.further found stages)
      rcases ensureDirectory_cases made with made | rfl
      · exact one grown larger path tidy .self keptAbove made
      · exact keptAbove
  | case6 path _ _ parent found grown above fault failed ih =>
      rw [above] at ih
      exact ih (Path.isTidy_of_parent? found) fun grown larger stage tidy stages =>
        one grown larger stage tidy (.further found stages)
  | case7 => exact start
  | case8 => exact start

/-- **Making directories lets a tree grow**, also if it fails. -/
theorem makeDirectories_grows (tree : FileTree) (tidy : path.IsTidy) :
    tree.Grows (tree.makeDirectories path).2 := by
  refine makeDirectories_keeps tidy ?_ (Grows.refl tree)
  intro grown larger stage tidy _ grows made
  obtain ⟨place, _, missing, rfl⟩ := makeDirectory_eq_ok tidy made
  exact grows.trans (set_directory_grows missing)

/-- **A stage of the path leads to each directory that is made**, also if it fails. -/
theorem makeDirectories_made (tree : FileTree) (tidy : path.IsTidy) (location : Location) :
    (tree.makeDirectories path).2.entry location = tree.entry location ∨
      ∃ stage : Path, stage.IsStageOf path ∧
        (tree.makeDirectories path).2.resolve stage = .ok location := by
  refine @makeDirectories_keeps tree path (fun grown => grown.entry location = tree.entry location ∨
    ∃ stage : Path, stage.IsStageOf path ∧ grown.resolve stage = .ok location) tidy ?_ (Or.inl rfl)
  intro grown larger stage tidy stages accounted made
  obtain ⟨place, leads, missing, rfl⟩ := makeDirectory_eq_ok tidy made
  have retains := (set_directory_grows missing).retains
  by_cases same : location = place
  · subst same
    exact Or.inr ⟨stage, stages, retains.resolve_ok leads⟩
  · rw [entry_set_of_ne grown _ same]
    rcases accounted with before | ⟨other, stages, leads⟩
    · exact Or.inl before
    · exact Or.inr ⟨other, stages, retains.resolve_ok leads⟩

/-- Without a directory to start from, none is made. -/
theorem makeDirectories_of_lost (tidy : path.IsTidy)
    (lost : tree.entry (tree.origin path) ≠ some .directory) :
    (tree.makeDirectories path).2 = tree := by
  refine @makeDirectories_keeps tree path (· = tree) tidy ?_ rfl
  rintro grown larger stage tidy stages rfl made
  obtain ⟨place, found, _⟩ := makeDirectory_eq_ok tidy made
  obtain ⟨_, named, leads⟩ := resolve_eq_ok_iff.1 found
  have start := entry_origin_of_walk named leads
  unfold origin at start lost
  rw [stages.rooted_eq] at start
  exact absurd start lost

/-! ### Where there is a passage -/

theorem hasDirectory_of_walk (fits : path.Fits) (named : path.text ≠ "")
    (leads : tree.walk (tree.origin path) path.parts = .ok location)
    (directory : tree.entry location = some .directory) : tree.hasDirectory path = true := by
  unfold hasDirectory find resolve
  rw [start_eq_ok_iff.2 ⟨fits, named, rfl⟩]
  simp [bind, Except.bind, leads, directory, pure, Except.pure]

/-- **Where a walk leads, a directory is made** unless a file stands there. -/
theorem ensureDirectory_of_walk (fits : path.Fits) (tidy : path.IsTidy) (named : path.text ≠ "")
    (leads : tree.walk (tree.origin path) path.parts = .ok location)
    (passable : tree.IsPassable location) :
    ∃ larger, tree.ensureDirectory path = .ok larger ∧ tree.Grows larger ∧
      larger.entry location = some .directory := by
  unfold ensureDirectory
  rw [makeDirectory_eq fits tidy named, leads]
  rcases isPassable_iff.1 passable with missing | directory
  · refine ⟨tree.set location .directory, ?_, set_directory_grows missing, ?_⟩
    · simp [Except.bind, missing]
    · refine entry_set_self tree .directory ?_
      rintro rfl
      cases missing
  · refine ⟨tree, ?_, Grows.refl tree, directory⟩
    simp [Except.bind, directory, hasDirectory_of_walk fits named leads directory]

theorem makeDirectories_of_ensured (named : path.text ≠ "")
    (found : tree.makeDirectory path ≠ .error .notFound)
    (ensured : tree.ensureDirectory path = .ok larger) :
    tree.makeDirectories path = (.ok (), larger) := by
  unfold makeDirectories
  unfold ensureDirectory at ensured
  rw [if_neg named]
  cases made : tree.makeDirectory path with
  | ok other =>
      rw [made] at ensured
      rw [Except.ok.inj ensured]
  | error fault =>
      rw [made] at ensured found
      dsimp only at ensured
      split_ifs at ensured with directory
      obtain rfl := Except.ok.inj ensured
      cases fault <;> simp_all

theorem makeDirectories_of_missing (named : path.text ≠ "")
    (missing : tree.makeDirectory path = .error .notFound) (found : path.parent? = some parent)
    (above : tree.makeDirectories parent = (.ok (), grown))
    (ensured : grown.ensureDirectory path = .ok larger) :
    tree.makeDirectories path = (.ok (), larger) := by
  rw [makeDirectories, if_neg named, missing]
  dsimp only
  split
  case h_1 none =>
    rw [none] at found
    cases found
  case h_2 other found' =>
    rw [found] at found'
    obtain rfl := Option.some.inj found'
    rw [above]
    dsimp only
    rw [ensured]

/-- **Where there is a passage the directories are made**, and a walk follows it. -/
theorem makeDirectories_of_passage? (fits : path.Fits) (tidy : path.IsTidy)
    (start : tree.entry (tree.origin path) = some .directory)
    (leads : tree.passage? (tree.origin path) path.parts = some location)
    (passable : tree.IsPassable location) :
    ∃ grown, tree.makeDirectories path = (.ok (), grown) ∧ tree.Grows grown ∧
      grown.walk (tree.origin path) path.parts = .ok location ∧
      grown.entry location = some .directory := by
  induction size : path.parts.length using Nat.strong_induction_on generalizing path location with
  | _ size ih =>
  by_cases named : path.text = ""
  · obtain ⟨_, parts⟩ := tidy.parts_of_text named
    rw [parts] at leads ⊢
    obtain rfl := Option.some.inj leads
    refine ⟨tree, ?_, Grows.refl tree, walk_nil _ _, start⟩
    rw [makeDirectories, if_pos named]
  rcases walk_of_passage? leads with found | missing
  · obtain ⟨larger, ensured, grows, directory⟩ :=
      ensureDirectory_of_walk fits tidy named found passable
    refine ⟨larger, makeDirectories_of_ensured named ?_ ensured, grows, grows.retains.walk_ok found,
      directory⟩
    rw [makeDirectory_eq fits tidy named, found]
    rcases isPassable_iff.1 passable with none | some
    · simp [Except.bind, none]
    · simp [Except.bind, some]
  · -- Something is missing, so the path has a name, and what is above it gets made first.
    have parts : ∃ part ∈ path.parts, Path.isIdle part = false := by
      by_contra idle
      have stays : tree.walk (tree.origin path) path.parts = .ok (tree.origin path) :=
        walk_idle start (by simpa using idle)
      rw [missing] at stays
      cases stays
    obtain ⟨parent, between, name, behind, found, whole, _, idle, idleBehind⟩ :=
      Path.exists_parent? parts
    obtain rfl : behind = [] :=
      tidy.eq_nil_of_behind (by rw [whole, List.append_assoc]) idleBehind
    rw [whole] at leads
    obtain ⟨middle, first, last⟩ := passage?_append_eq_some_iff.1 leads
    rw [← origin_parent? tree found] at first start
    obtain ⟨grown, above, grows, reached, directory⟩ :=
      ih parent.parts.length (by rw [← size]; exact Path.length_parent?_lt found)
        (fits.parent found) (Path.isTidy_of_parent? found) start first
        (isPassable_of_passage? last (by simp)) rfl
    have onward : grown.walk (tree.origin path) path.parts = .ok location := by
      rw [whole, ← origin_parent? tree found, walk_append_of_ok reached]
      exact walk_last directory idle last
    rw [← grows.retains.origin_eq] at onward
    obtain ⟨larger, ensured, furtherGrows, made⟩ :=
      ensureDirectory_of_walk fits tidy named onward (grows.isPassable_iff.2 passable)
    refine ⟨larger, makeDirectories_of_missing named ?_ found above ensured,
      grows.trans furtherGrows, ?_, made⟩
    · rw [makeDirectory_eq fits tidy named, missing]
      rfl
    · rw [← grows.retains.origin_eq]
      exact furtherGrows.retains.walk_ok onward

/-! ### Storing contents -/

/-- What it takes to store a content, and what it does. -/
theorem store_eq_ok {content : ByteArray}
    (stored : tree.store path content = .ok after) :
    tree.start path = .ok (tree.origin path) ∧ path.asksForDirectory = false ∧
      ∃ place, tree.walk (tree.origin path) path.parts = .ok place ∧
        tree.entry place ≠ some .directory ∧ after = tree.set place (.file content) := by
  unfold store at stored
  cases starts : tree.start path with
  | error fault =>
      rw [starts] at stored
      cases stored
  | ok origin =>
      obtain ⟨_, _, rfl⟩ := start_eq_ok_iff.1 starts
      rw [starts] at stored
      cases last : path.asksForDirectory with
      | true =>
          cases above : tree.walk (tree.origin path) (path.trimmed.dropLast ++ [[]]) <;>
            simp [last, above, bind, Except.bind, throw, throwThe, MonadExceptOf.throw] at stored
      | false =>
          cases leads : tree.walk (tree.origin path) path.parts with
          | error fault => simp [last, leads, bind, Except.bind] at stored
          | ok place =>
              refine ⟨rfl, rfl, place, rfl, ?_⟩
              -- A directory is refused, and anything else makes way for the content.
              rcases held : tree.entry place with _ | (content' | _) <;>
                simp_all [bind, Except.bind, pure, Except.pure, throw, throwThe,
                  MonadExceptOf.throw]

/-- Where a walk leads to a file, another content can be stored. -/
theorem store_of_walk (content : ByteArray)
    (starts : tree.start path = .ok (tree.origin path)) (last : path.asksForDirectory = false)
    (leads : tree.walk (tree.origin path) path.parts = .ok location)
    (stands : tree.entry location = some (.file old)) :
    tree.store path content = .ok (tree.set location (.file content)) := by
  unfold store
  simp [starts, last, leads, stands, bind, Except.bind, pure, Except.pure]

end CodeBlocks.FileTree
