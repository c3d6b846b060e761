/-
**Paths.**

A path is cut into parts at its slashes, and every part is kept: an empty part, between two slashes
or behind the last one, and a single dot lead nowhere but still ask for a directory, and they count
for the length of the path.

Main definitions:

* `CodeBlocks.Path` — a path by its parts;
* `CodeBlocks.Path.ofText`, `CodeBlocks.Path.text` — from the written form, and back;
* `CodeBlocks.Path.parent?` — the path of the directory that should hold the last name.

Main results:

* `CodeBlocks.Path.length_parent?_lt` — the way to the root ends.
-/

set_option relaxedAutoImplicit false
set_option autoImplicit false

namespace CodeBlocks

/-- **A path**, from the root or from the working directory. -/
structure Path where
  rooted : Bool
  parts : List (List Char)
deriving DecidableEq, Repr

namespace Path

/-! ### The written form -/

def partsOf : List Char → List (List Char)
  | [] => [[]]
  | c :: rest =>
    if c = '/' then [] :: partsOf rest
    else match partsOf rest with
      | part :: parts => (c :: part) :: parts
      | [] => [[c]]

def ofText (text : String) : Path :=
  match text.toList with
  | '/' :: rest => ⟨true, partsOf rest⟩
  | letters => ⟨false, partsOf letters⟩

def text (path : Path) : String :=
  String.ofList ((if path.rooted then ['/'] else []) ++ ['/'].intercalate path.parts)

/-! ### The parts -/

def isIdle (part : List Char) : Bool := part = [] || part = ['.']

/-- Whether the path ends with a slash, and so can only be that of a directory. -/
def asksForDirectory (path : Path) : Bool := path.parts.getLast? = some []

/-- The parts without the slashes at the end. -/
def trimmed (path : Path) : List (List Char) :=
  (path.parts.reverse.dropWhile (· = [])).reverse

/-- A dot in front of everything else, which counts as a name, and the other parts. -/
def splitLead (path : Path) : List (List Char) × List (List Char) :=
  match path.rooted, path.parts with
  | false, ['.'] :: rest => ([['.']], rest)
  | _, parts => ([], parts)

/-- **The path of the directory that should hold the last name.**  The root and the empty path have
none. -/
def parent? (path : Path) : Option Path :=
  let (lead, rest) := path.splitLead
  match rest.reverse.dropWhile isIdle with
  | _ :: outer => some ⟨path.rooted, lead ++ (outer.dropWhile isIdle).reverse⟩
  | [] => if lead = [] then none else some ⟨path.rooted, []⟩

theorem length_splitLead (path : Path) :
    path.splitLead.1.length + path.splitLead.2.length = path.parts.length := by
  rw [splitLead]
  split
  case h_1 h => simp [h]; omega
  case h_2 => simp

theorem length_dropWhile_le {α : Type} (test : α → Bool) (list : List α) :
    (list.dropWhile test).length ≤ list.length :=
  (List.dropWhile_sublist test).length_le

/-- **The way to the root ends.** -/
theorem length_parent?_lt {path parent : Path} (h : path.parent? = some parent) :
    parent.parts.length < path.parts.length := by
  have total := path.length_splitLead
  revert h total
  rw [parent?]
  cases path.splitLead with
  | mk lead rest =>
    intro h total
    have shorter := length_dropWhile_le isIdle rest.reverse
    dsimp only at h total
    split at h
    case h_1 outer found =>
      obtain rfl := Option.some.inj h
      have inner := length_dropWhile_le isIdle outer
      simp [found] at shorter
      simp
      omega
    case h_2 =>
      split at h
      · cases h
      · rename_i named
        obtain rfl := Option.some.inj h
        have : 0 < lead.length := List.length_pos_iff.2 named
        simp
        omega

end Path

end CodeBlocks
