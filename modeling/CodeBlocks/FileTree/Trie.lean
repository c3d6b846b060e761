/-
**Values under lists of names.**

A trie holds at most one value under each list of names.  It branches at every name, so that a way
down can be followed one name at a time, without going back to the root.

Main definitions:

* `CodeBlocks.Trie` — what is held here, and the tries below;
* `CodeBlocks.Trie.child`, `CodeBlocks.Trie.descend` — the trie below a name, and below several;
* `CodeBlocks.Trie.get`, `CodeBlocks.Trie.insert` — looking and changing.

Main results:

* `CodeBlocks.Trie.get_insert_self`, `CodeBlocks.Trie.get_insert_of_ne` — **only the value under the
  given names changes**.
-/

set_option relaxedAutoImplicit false
set_option autoImplicit false

namespace CodeBlocks

/-- **Values under lists of names.** -/
inductive Trie (α : Type) where
  | node (held : Option α) (children : List (String × Trie α))

namespace Trie

variable {α : Type}

def empty : Trie α := node none []

/-- What is held under no names. -/
def held : Trie α → Option α
  | node value _ => value

/-- The trie that holds something else under no names. -/
def hold (value : α) : Trie α → Trie α
  | node _ children => node (some value) children

/-! ### One name -/

/-- The trie that stands beside a name in a list. -/
def childIn (name : String) : List (String × Trie α) → Trie α
  | [] => empty
  | (other, trie) :: rest => if other = name then trie else childIn name rest

/-- The list with another trie beside a name. -/
def putIn (name : String) (new : Trie α) : List (String × Trie α) → List (String × Trie α)
  | [] => [(name, new)]
  | (other, trie) :: rest =>
    if other = name then (name, new) :: rest else (other, trie) :: putIn name new rest

def child (name : String) : Trie α → Trie α
  | node _ children => childIn name children

def withChild (name : String) (new : Trie α) : Trie α → Trie α
  | node value children => node value (putIn name new children)

theorem childIn_putIn_self (name : String) (new : Trie α) (children : List (String × Trie α)) :
    childIn name (putIn name new children) = new := by
  fun_induction putIn name new children <;> simp_all [childIn]

theorem childIn_putIn_of_ne {name other : String} (new : Trie α)
    (children : List (String × Trie α)) (h : other ≠ name) :
    childIn other (putIn name new children) = childIn other children := by
  fun_induction putIn name new children <;> simp_all [childIn, Ne.symm h]

@[simp] theorem child_withChild_self (name : String) (new trie : Trie α) :
    child name (withChild name new trie) = new := by
  cases trie
  exact childIn_putIn_self _ _ _

theorem child_withChild_of_ne {name other : String} (new trie : Trie α) (h : other ≠ name) :
    child other (withChild name new trie) = child other trie := by
  cases trie
  exact childIn_putIn_of_ne _ _ h

@[simp] theorem held_withChild (name : String) (new trie : Trie α) :
    held (withChild name new trie) = held trie := by
  cases trie
  rfl

@[simp] theorem held_hold (value : α) (trie : Trie α) : held (hold value trie) = some value := by
  cases trie
  rfl

@[simp] theorem child_hold (name : String) (value : α) (trie : Trie α) :
    child name (hold value trie) = child name trie := by
  cases trie
  rfl

/-! ### Several names -/

/-- The trie below some names, the outermost first. -/
def descend : List String → Trie α → Trie α
  | [], trie => trie
  | name :: names, trie => descend names (child name trie)

def get (names : List String) (trie : Trie α) : Option α := held (descend names trie)

def insert : List String → α → Trie α → Trie α
  | [], value, trie => hold value trie
  | name :: names, value, trie => withChild name (insert names value (child name trie)) trie

theorem descend_append (outer inner : List String) (trie : Trie α) :
    descend (outer ++ inner) trie = descend inner (descend outer trie) := by
  induction outer generalizing trie with
  | nil => rfl
  | cons name names ih => exact ih _

@[simp] theorem get_nil (trie : Trie α) : get [] trie = held trie := rfl

@[simp] theorem get_cons (name : String) (names : List String) (trie : Trie α) :
    get (name :: names) trie = get names (child name trie) := rfl

theorem get_insert_self (names : List String) (value : α) (trie : Trie α) :
    get names (insert names value trie) = some value := by
  induction names generalizing trie with
  | nil => simp [insert]
  | cons name names ih => simp [insert, ih]

theorem get_insert_of_ne {names others : List String} (value : α) (trie : Trie α)
    (h : others ≠ names) : get others (insert names value trie) = get others trie := by
  induction names generalizing others trie with
  | nil =>
    cases others with
    | nil => exact absurd rfl h
    | cons other others => simp [insert]
  | cons name names ih =>
    cases others with
    | nil => simp [insert]
    | cons other others =>
      by_cases same : other = name
      · subst same
        have : others ≠ names := fun equal => h (by rw [equal])
        simp [insert, ih _ this]
      · simp [insert, child_withChild_of_ne _ _ same]

end Trie

end CodeBlocks
