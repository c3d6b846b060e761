/-
**Walks and passages.**

A walk follows the parts of a path one after the other, and it stops where something is missing.  A
passage goes on there, as if a directory stood where nothing does.  So it tells beforehand where a
path will lead once all that is missing on it is made.

Main definitions:

* `CodeBlocks.FileTree.turn?` — where one part leads;
* `CodeBlocks.FileTree.passage?` — where a path leads once all that is missing is made;
* `CodeBlocks.FileTree.origin` — where a path starts from.

Main results:

* `CodeBlocks.FileTree.walk_append`, `CodeBlocks.FileTree.passage?_append_eq_some_iff` — parts are
  followed one after the other;
* `CodeBlocks.FileTree.walk_of_passage?` — **a passage is a walk, or something is missing**;
* `CodeBlocks.FileTree.start_eq_ok_iff`, `CodeBlocks.FileTree.resolve_eq_ok_iff` — which paths can
  be looked up at all, and which have a location.
-/
import CodeBlocks.Proofs.FileTree.Parents

set_option relaxedAutoImplicit false
set_option autoImplicit false

namespace CodeBlocks.FileTree

variable {tree grown : FileTree} {place location : Location}
  {part : List Char} {parts front back : List (List Char)} {path parent : Path}

/-! ### Following parts -/

/-- Where one part leads, unless it is too long for a name. -/
def turn? (place : Location) (part : List Char) : Option Location :=
  if Path.isIdle part then some place
  else if part = ['.', '.'] then some place.tail
  else if longestName < (String.ofList part).utf8ByteSize then none
  else some (String.ofList part :: place)

theorem turn?_idle (place : Location) (idle : Path.isIdle part = true) :
    turn? place part = some place := if_pos idle

/-- **The three turns**: staying, going back, and going into what a name says. -/
theorem turn?_cases {next : Location} (turns : turn? place part = some next) :
    next = place ∨ part = ['.', '.'] ∧ next = place.tail ∨
      part ≠ ['.', '.'] ∧ next = String.ofList part :: place := by
  unfold turn? at turns
  split_ifs at turns with idle back
  · exact Or.inl (Option.some.inj turns).symm
  · exact Or.inr (Or.inl ⟨back, (Option.some.inj turns).symm⟩)
  · exact Or.inr (Or.inr ⟨back, (Option.some.inj turns).symm⟩)

theorem walk_cons_turn? (tree : FileTree) (place : Location) (part : List Char)
    (parts : List (List Char)) :
    tree.walk place (part :: parts) =
      match tree.entry place with
      | none => .error .notFound
      | some (.file _) => .error .notADirectory
      | some .directory =>
        match turn? place part with
        | none => .error .invalidFilename
        | some next => tree.walk next parts := by
  rw [walk_cons]
  cases tree.entry place with
  | none => rfl
  | some held =>
      cases held with
      | file content => rfl
      | directory =>
          unfold turn?
          dsimp only
          split_ifs <;> rfl

/-- **How a walk begins** that leads somewhere. -/
theorem walk_cons_eq_ok_iff :
    tree.walk place (part :: parts) = .ok location ↔
      tree.entry place = some .directory ∧
        ∃ next, turn? place part = some next ∧ tree.walk next parts = .ok location := by
  rw [walk_cons_turn?]
  split
  case h_1 missing => simp [missing]
  case h_2 file => simp [file]
  case h_3 directory =>
    cases turn? place part with
    | none => simp
    | some next => simp [directory]

/-- **A walk along some parts and then along others.** -/
theorem walk_append (tree : FileTree) (place : Location) (front back : List (List Char)) :
    tree.walk place (front ++ back) =
      (tree.walk place front).bind fun next => tree.walk next back := by
  induction front generalizing place with
  | nil =>
      rw [walk_nil]
      rfl
  | cons part front ih =>
      rw [List.cons_append, walk_cons_turn?, walk_cons_turn?]
      split
      · rfl
      · rfl
      · cases turn? place part with
        | none => rfl
        | some next => exact ih next

theorem walk_append_of_ok (first : tree.walk place front = .ok location) :
    tree.walk place (front ++ back) = tree.walk location back := by
  rw [walk_append, first]
  rfl

/-- Parts that lead nowhere only ask for a directory. -/
theorem walk_idle (directory : tree.entry place = some .directory)
    (idle : ∀ part ∈ parts, Path.isIdle part = true) : tree.walk place parts = .ok place := by
  induction parts with
  | nil => exact walk_nil tree place
  | cons part parts ih =>
      refine walk_cons_eq_ok_iff.2 ⟨directory, place, ?_, ?_⟩
      · exact turn?_idle place (idle part (List.mem_cons_self ..))
      · exact ih fun other member => idle other (List.mem_cons_of_mem _ member)

/-! ### Passages -/

def IsPassable (tree : FileTree) (place : Location) : Prop :=
  ∀ content, tree.entry place ≠ some (.file content)

/-- **Where parts lead once all that is missing is made.**  Only a file stops the passage, and a
part that is too long for a name. -/
def passage? (tree : FileTree) : Location → List (List Char) → Option Location
  | place, [] => some place
  | place, part :: parts =>
    match tree.entry place with
    | some (.file _) => none
    | _ => (turn? place part).bind fun next => tree.passage? next parts

theorem isPassable_iff :
    tree.IsPassable place ↔ tree.entry place = none ∨ tree.entry place = some .directory := by
  unfold IsPassable
  rcases tree.entry place with _ | (content | _) <;> simp

theorem passage?_cons_eq_some_iff :
    tree.passage? place (part :: parts) = some location ↔
      tree.IsPassable place ∧
        ∃ next, turn? place part = some next ∧ tree.passage? next parts = some location := by
  rw [passage?]
  split
  case h_1 content file => simp [IsPassable, file]
  case h_2 passable =>
    rw [Option.bind_eq_some_iff]
    exact ⟨fun leads => ⟨passable, leads⟩, fun both => both.2⟩

/-- **A passage along some parts and then along others.** -/
theorem passage?_append_eq_some_iff :
    tree.passage? place (front ++ back) = some location ↔
      ∃ next, tree.passage? place front = some next ∧ tree.passage? next back = some location := by
  induction front generalizing place with
  | nil => simp [passage?]
  | cons part front ih =>
      simp only [List.cons_append, passage?_cons_eq_some_iff, ih]
      constructor
      · rintro ⟨passable, next, turns, middle, first, second⟩
        exact ⟨middle, ⟨passable, next, turns, first⟩, second⟩
      · rintro ⟨middle, ⟨passable, next, turns, first⟩, second⟩
        exact ⟨passable, next, turns, middle, first, second⟩

/-- Where a passage along at least one part starts, no file stands. -/
theorem isPassable_of_passage? (leads : tree.passage? place parts = some location)
    (further : parts ≠ []) : tree.IsPassable place := by
  cases parts with
  | nil => exact absurd rfl further
  | cons part parts => exact (passage?_cons_eq_some_iff.1 leads).1

theorem passage?_idle (leads : tree.passage? place parts = some location)
    (idle : ∀ part ∈ parts, Path.isIdle part = true) : place = location := by
  induction parts with
  | nil => exact Option.some.inj leads
  | cons part parts ih =>
      obtain ⟨_, next, turns, onward⟩ := passage?_cons_eq_some_iff.1 leads
      rw [turn?_idle place (idle part (List.mem_cons_self ..))] at turns
      rw [← Option.some.inj turns] at onward
      exact ih onward fun other member => idle other (List.mem_cons_of_mem _ member)

theorem passage?_of_walk (leads : tree.walk place parts = .ok location) :
    tree.passage? place parts = some location := by
  induction parts generalizing place with
  | nil =>
      rw [walk_nil] at leads
      exact congrArg some (Except.ok.inj leads)
  | cons part parts ih =>
      obtain ⟨directory, next, turns, onward⟩ := walk_cons_eq_ok_iff.1 leads
      have passable : tree.IsPassable place := isPassable_iff.2 (Or.inr directory)
      exact passage?_cons_eq_some_iff.2 ⟨passable, next, turns, ih onward⟩

/-- **A passage is a walk, or something is missing.** -/
theorem walk_of_passage? (leads : tree.passage? place parts = some location) :
    tree.walk place parts = .ok location ∨ tree.walk place parts = .error .notFound := by
  induction parts generalizing place with
  | nil => exact Or.inl (by rw [walk_nil, Option.some.inj leads])
  | cons part parts ih =>
      -- The walk ends where something is missing, and else it takes the turn of the passage.
      obtain ⟨passable, next, turns, onward⟩ := passage?_cons_eq_some_iff.1 leads
      rw [walk_cons_turn?]
      rcases isPassable_iff.1 passable with missing | directory
      · rw [missing]
        exact Or.inr rfl
      · rw [directory, turns]
        exact ih onward

/-- A walk takes the last turn of a passage, in any tree with a directory to start from. -/
theorem walk_last {name : List Char} (directory : grown.entry place = some .directory)
    (idle : ∀ part ∈ front, Path.isIdle part = true)
    (leads : tree.passage? place (front ++ [name]) = some location) :
    grown.walk place (front ++ [name]) = .ok location := by
  obtain ⟨next, first, last⟩ := passage?_append_eq_some_iff.1 leads
  obtain rfl := passage?_idle first idle
  obtain ⟨_, next, turns, onward⟩ := passage?_cons_eq_some_iff.1 last
  obtain rfl := Option.some.inj onward
  rw [walk_append_of_ok (walk_idle directory idle)]
  exact walk_cons_eq_ok_iff.2 ⟨directory, next, turns, walk_nil grown next⟩

/-! ### Where paths start -/

def origin (tree : FileTree) (path : Path) : Location :=
  if path.rooted then [] else tree.workingDirectory

/-- **When a path starts**: if its text is one for a path, and not empty. -/
theorem start_eq_ok_iff :
    tree.start path = .ok place ↔
      path.Fits ∧ path.text ≠ "" ∧ place = tree.origin path := by
  change (if path.text.toList.contains '\x00' then .error .invalidInput
    else if longestPath < path.text.utf8ByteSize then .error .invalidFilename
    else if path.text = "" then .error .notFound
    else .ok (tree.origin path) : Except IoFault Location) = .ok place ↔ _
  split_ifs with null long blank
  · refine ⟨nofun, ?_⟩
    rintro ⟨fits, _⟩
    exact absurd (List.contains_iff_mem.1 null) fits.noNull
  · refine ⟨nofun, ?_⟩
    rintro ⟨fits, _⟩
    exact absurd fits.short (Nat.not_le.2 long)
  · refine ⟨nofun, ?_⟩
    rintro ⟨_, named, _⟩
    exact absurd blank named
  · have fits : path.Fits :=
      ⟨fun held => null (List.contains_iff_mem.2 held), Nat.not_lt.1 long⟩
    constructor
    · intro starts
      exact ⟨fits, blank, (Except.ok.inj starts).symm⟩
    · rintro ⟨_, _, rfl⟩
      rfl

/-- **When a path has a location**, and which. -/
theorem resolve_eq_ok_iff :
    tree.resolve path = .ok location ↔
      path.Fits ∧ path.text ≠ "" ∧ tree.walk (tree.origin path) path.parts = .ok location := by
  unfold resolve
  constructor
  · intro leads
    cases starts : tree.start path with
    | error fault =>
        rw [starts] at leads
        cases leads
    | ok place =>
        obtain ⟨fits, named, rfl⟩ := start_eq_ok_iff.1 starts
        rw [starts] at leads
        exact ⟨fits, named, leads⟩
  · rintro ⟨fits, named, leads⟩
    rw [start_eq_ok_iff.2 ⟨fits, named, rfl⟩]
    exact leads

/-- What stands at the location of a path is found at the path. -/
theorem find_of_resolve {held : FileEntry} (leads : tree.resolve path = .ok location)
    (stands : tree.entry location = some held) : tree.find path = .ok held := by
  unfold find
  rw [leads]
  simp [bind, Except.bind, stands, pure, Except.pure]

theorem origin_parent? (tree : FileTree) (found : path.parent? = some parent) :
    tree.origin parent = tree.origin path := by
  unfold origin
  rw [(Path.of_parent? found).1]

/-- A walk that leads somewhere starts from a directory, unless there is nothing to it. -/
theorem entry_origin_of_walk (named : path.text ≠ "")
    (leads : tree.walk (tree.origin path) path.parts = .ok place) :
    tree.entry (tree.origin path) = some .directory := by
  cases parts : path.parts with
  | cons part parts =>
      rw [parts] at leads
      exact (walk_cons_eq_ok_iff.1 leads).1
  | nil =>
      have rooted : path.rooted = true := by
        by_contra unrooted
        refine named ?_
        simp [Path.text, parts, unrooted]
      unfold origin
      rw [if_pos rooted, entry_root]

end CodeBlocks.FileTree
