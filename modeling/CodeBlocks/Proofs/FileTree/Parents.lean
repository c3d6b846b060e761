/-
**Parents of paths.**

The parent of a path is the path up to its last name: what stands behind that name, and what stands
between it and the name before it, leads nowhere and is left out.  So a parent ends with a name,
unless nothing or only a leading dot is left of it, and it is a path wherever the path itself is
one.

Main definitions:

* `CodeBlocks.Path.IsTidy` — a path that leaves out what leads nowhere at its end;
* `CodeBlocks.Path.IsStageOf`, `CodeBlocks.Path.IsAbove` — the parent of a path, the parent of that,
  and so on;
* `CodeBlocks.Path.Fits` — a path that no system refuses for its text.

Main results:

* `CodeBlocks.Path.exists_parent?` — **a path with a name is its parent, the name, and parts that
  lead nowhere**;
* `CodeBlocks.Path.isTidy_of_parent?`, `CodeBlocks.Path.Fits.parent` — what a parent is like.
-/
import CodeBlocks.FileTree
import Mathlib.Data.List.TakeWhile

set_option relaxedAutoImplicit false
set_option autoImplicit false

namespace CodeBlocks.Path

/-! ### The parts of a parent -/

/-- **A tidy path** ends with a name, unless nothing or only a leading dot is left. -/
def IsTidy (path : Path) : Prop :=
  path.parts = [] ∨ path.parts = [['.']] ∨
    ∃ front name, path.parts = front ++ [name] ∧ isIdle name = false

theorem splitLead_append (path : Path) : path.splitLead.1 ++ path.splitLead.2 = path.parts := by
  unfold splitLead
  split
  case h_1 parts => simp [parts]
  case h_2 => rfl

theorem lead_cases (path : Path) :
    path.splitLead.1 = [] ∨ path.splitLead.1 = [['.']] := by
  unfold splitLead
  split
  case h_1 => exact Or.inr rfl
  case h_2 => exact Or.inl rfl

/-- The parts up to the last name, behind a lead. -/
theorem isTidy_of_dropWhile (rooted : Bool) {lead : List (List Char)}
    (leads : lead = [] ∨ lead = [['.']]) (outer : List (List Char)) :
    IsTidy ⟨rooted, lead ++ (outer.dropWhile isIdle).reverse⟩ := by
  cases kept : outer.dropWhile isIdle with
  | nil =>
      rcases leads with rfl | rfl
      · exact Or.inl rfl
      · exact Or.inr (Or.inl rfl)
  | cons name front =>
      have named : isIdle name = false := by
        have first := List.head?_dropWhile_not isIdle outer
        rwa [kept] at first
      refine Or.inr (Or.inr ⟨lead ++ front.reverse, name, ?_, named⟩)
      rw [List.reverse_cons, List.append_assoc]

/-- What a parent is, and what of the path it leaves out. -/
theorem of_parent? {path parent : Path} (found : path.parent? = some parent) :
    parent.rooted = path.rooted ∧ parent.IsTidy ∧ parent.parts <+: path.parts := by
  unfold parent? at found
  have whole := path.splitLead_append
  have leads := path.lead_cases
  generalize path.splitLead = split at found whole leads
  obtain ⟨lead, rest⟩ := split
  dsimp only at found whole leads
  split at found
  case h_1 last outer shape =>
    obtain rfl := Option.some.inj found
    refine ⟨rfl, isTidy_of_dropWhile _ leads outer, ?_⟩
    -- The parts are dropped from their end, so what is kept is looked at backwards.
    have tail : (last :: outer) <:+ rest.reverse := shape ▸ List.dropWhile_suffix isIdle
    have inner : outer.dropWhile isIdle <:+ rest.reverse :=
      (List.dropWhile_suffix isIdle).trans ((List.suffix_cons last outer).trans tail)
    rw [← whole]
    refine (List.prefix_append_right_inj lead).2 ?_
    simpa using List.reverse_prefix.2 inner
  case h_2 =>
    split at found
    · cases found
    · obtain rfl := Option.some.inj found
      exact ⟨rfl, Or.inl rfl, List.nil_prefix⟩

theorem isTidy_of_parent? {path parent : Path} (found : path.parent? = some parent) :
    parent.IsTidy := (of_parent? found).2.1

/-- **A path with a name** is its parent, the last name, and parts that lead nowhere between them
and behind them. -/
theorem exists_parent? {path : Path} (named : ∃ part ∈ path.parts, isIdle part = false) :
    ∃ parent between name behind, path.parent? = some parent ∧
      path.parts = parent.parts ++ (between ++ name :: behind) ∧ isIdle name = false ∧
      (∀ part ∈ between, isIdle part = true) ∧ ∀ part ∈ behind, isIdle part = true := by
  unfold parent?
  have whole := path.splitLead_append
  have leads := path.lead_cases
  generalize path.splitLead = split at whole leads
  obtain ⟨lead, rest⟩ := split
  dsimp only at whole leads ⊢
  obtain ⟨part, member, leading⟩ := named
  -- The lead has no name, so the one there is stands in the rest.
  have inRest : part ∈ rest := by
    rw [← whole] at member
    rcases List.mem_append.1 member with inLead | inRest
    · rcases leads with rfl | rfl
      · cases inLead
      · rw [List.mem_singleton.1 inLead] at leading
        cases leading
    · exact inRest
  cases shape : rest.reverse.dropWhile isIdle with
  | nil =>
      have idle := List.dropWhile_eq_nil_iff.1 shape part (List.mem_reverse.2 inRest)
      rw [leading] at idle
      cases idle
  | cons name outer =>
      have isName : isIdle name = false := by
        have first := List.head?_dropWhile_not isIdle rest.reverse
        rwa [shape] at first
      have back : rest.reverse = rest.reverse.takeWhile isIdle ++ name ::
          (outer.takeWhile isIdle ++ outer.dropWhile isIdle) := by
        rw [List.takeWhile_append_dropWhile, ← shape, List.takeWhile_append_dropWhile]
      refine ⟨_, (outer.takeWhile isIdle).reverse, name, (rest.reverse.takeWhile isIdle).reverse,
        rfl, ?_, isName, ?_, ?_⟩
      · have forth : rest = (outer.dropWhile isIdle).reverse ++ ((outer.takeWhile isIdle).reverse ++
            name :: (rest.reverse.takeWhile isIdle).reverse) := by
          have reversed := congrArg List.reverse back
          simp only [List.reverse_reverse, List.reverse_append, List.reverse_cons,
            List.append_assoc, List.singleton_append] at reversed
          exact reversed
        rw [← whole, List.append_assoc, ← forth]
      · intro part member
        exact List.mem_takeWhile_imp (List.mem_reverse.1 member)
      · intro part member
        exact List.mem_takeWhile_imp (List.mem_reverse.1 member)

/-! ### Stages -/

/-- **A stage of a path**: the path itself, its parent, the parent of that, and so on. -/
inductive IsStageOf (stage : Path) : Path → Prop
  | self : IsStageOf stage stage
  | further {path parent : Path} : path.parent? = some parent → IsStageOf stage parent →
      IsStageOf stage path

/-- **A path above another**: its parent, or a further stage. -/
def IsAbove (outer path : Path) : Prop :=
  ∃ parent, path.parent? = some parent ∧ outer.IsStageOf parent

/-- All stages start from the same place. -/
theorem IsStageOf.rooted_eq {stage path : Path} (stages : stage.IsStageOf path) :
    stage.rooted = path.rooted := by
  induction stages with
  | self => rfl
  | further found _ ih => rw [ih, (of_parent? found).1]

/-! ### Tidy paths -/

theorem IsTidy.trimmed_eq {path : Path} (tidy : path.IsTidy) : path.trimmed = path.parts := by
  unfold trimmed
  rcases tidy with parts | parts | ⟨front, name, parts, named⟩
  · rw [parts]
    rfl
  · rw [parts]
    rfl
  · have lasts : name ≠ [] := by
      rintro rfl
      cases named
    simp [parts, lasts]

/-- Nothing stands behind the last name of a tidy path. -/
theorem IsTidy.eq_nil_of_behind {path : Path} (tidy : path.IsTidy) {front behind : List (List Char)}
    {name : List Char} (parts : path.parts = front ++ name :: behind)
    (idle : ∀ part ∈ behind, isIdle part = true) : behind = [] := by
  rcases List.eq_nil_or_concat behind with rfl | ⟨inner, last, rfl⟩
  · rfl
  -- A tidy path ends with a name, and a part behind would be its last one.
  · exfalso
    have idleLast : isIdle last = true := idle last (by simp)
    rcases tidy with none | dot | ⟨outer, other, ends, isName⟩
    · simp [none] at parts
    · cases front <;> simp [dot] at parts
    · rw [ends, List.concat_eq_append, ← List.cons_append, ← List.append_assoc] at parts
      have same : other = last := List.singleton_inj.1 (List.append_inj' parts rfl).2
      rw [same, idleLast] at isName
      cases isName

theorem IsTidy.parts_of_text {path : Path} (tidy : path.IsTidy) (blank : path.text = "") :
    path.rooted = false ∧ path.parts = [] := by
  have letters : (if path.rooted then ['/'] else []) ++ ['/'].intercalate path.parts = [] := by
    have := congrArg String.toList blank
    simpa [text] using this
  obtain ⟨unrooted, joined⟩ := List.append_eq_nil_iff.1 letters
  refine ⟨by simpa using unrooted, ?_⟩
  rcases tidy with parts | parts | ⟨front, name, parts, named⟩
  · exact parts
  · simp [parts] at joined
  · rw [parts] at joined
    cases front with
    | nil =>
        simp at joined
        subst joined
        cases named
    | cons first front => simp [List.intercalate_cons_of_ne_nil] at joined

/-! ### Texts that a system takes -/

/-- **A path that no system refuses for its text**: it holds no null character, and it is not too
long. -/
structure Fits (path : Path) : Prop where
  noNull : '\x00' ∉ path.text.toList
  short : path.text.utf8ByteSize ≤ FileTree.longestPath

theorem intercalate_prefix (glue : List Char) (front back : List (List Char)) :
    glue.intercalate front <+: glue.intercalate (front ++ back) := by
  induction front with
  | nil => exact List.nil_prefix
  | cons part front ih =>
      cases front with
      | nil =>
          cases back with
          | nil => exact List.prefix_refl _
          | cons => simp
      | cons next front =>
          rw [List.cons_append, List.cons_append, List.intercalate_cons_cons,
            List.intercalate_cons_cons]
          exact (List.prefix_append_right_inj _).2 ih

/-- The text of a path goes on from that of its parent. -/
theorem text_parent? {path parent : Path} (found : path.parent? = some parent) :
    ∃ rest, path.text = parent.text ++ String.ofList rest := by
  obtain ⟨rooted, _, more, parts⟩ := of_parent? found
  obtain ⟨rest, joined⟩ := intercalate_prefix ['/'] parent.parts more
  refine ⟨rest, ?_⟩
  rw [text, text, ← parts, ← joined, rooted, ← String.ofList_append, List.append_assoc]

theorem Fits.parent {path parent : Path} (fits : path.Fits) (found : path.parent? = some parent) :
    parent.Fits := by
  obtain ⟨rest, whole⟩ := text_parent? found
  constructor
  · intro null
    refine fits.noNull ?_
    rw [whole, String.toList_append]
    exact List.mem_append_left _ null
  · have short := fits.short
    rw [whole, String.utf8ByteSize_append] at short
    omega

end CodeBlocks.Path
