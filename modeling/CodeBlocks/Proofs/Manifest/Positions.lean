/-
**Nodes by their positions.**

A path of positions leads to a node of a draft: its first position counts among the nodes of the
block, and each further one among the nodes inside the scope that was reached.  All nodes can also
be listed, a node in front of the nodes inside it and these in front of its later siblings.  The
two ways to find a node agree, and the order of the list is an order on paths.

Main definitions:

* `CodeBlocks.NodeDraft.inner` — the nodes inside a node, which only a scope has;
* `CodeBlocks.nodeAt?` — the node that a path leads to;
* `CodeBlocks.NodePath.Before` — which of two nodes comes first in the document;
* `CodeBlocks.visits` — all nodes with their paths, in the order of the document;
* `CodeBlocks.FirstFault` — a path leads to the first node that breaks a rule.

Main results:

* `CodeBlocks.mem_visits_iff` — **the list has exactly the nodes that paths lead to**;
* `CodeBlocks.visits_sorted` — it is in order;
* `CodeBlocks.firstFault_of_findSome?` — the first entry of the list that breaks a rule is the first
  node that does;
* `CodeBlocks.NodePath.words_injective` — the words for a path tell where it leads.
-/
import CodeBlocks.Proofs.Manifest.Rules

set_option relaxedAutoImplicit false
set_option autoImplicit false

namespace CodeBlocks

/-! ### Where a path leads -/

/-- The nodes inside a node.  Only a scope has any. -/
def NodeDraft.inner : NodeDraft → List NodeDraft
  | ⟨_, some _, _, _, some nodes⟩ => nodes
  | _ => []

/-- **The node that a path leads to.** -/
def nodeAt? : List NodeDraft → NodePath → Option NodeDraft
  | _, [] => none
  | nodes, [position] => nodes[position]?
  | nodes, position :: next :: rest =>
    nodes[position]?.bind fun node => nodeAt? node.inner (next :: rest)

@[simp] theorem nodeAt?_empty_path (nodes : List NodeDraft) : nodeAt? nodes [] = none := by
  simp [nodeAt?]

@[simp] theorem nodeAt?_no_nodes (path : NodePath) : nodeAt? [] path = none := by
  cases path with
  | nil => simp
  | cons position rest => cases rest <;> simp [nodeAt?]

theorem nodeAt?_cons_succ (node : NodeDraft) (nodes : List NodeDraft) (position : Nat)
    (rest : NodePath) :
    nodeAt? (node :: nodes) ((position + 1) :: rest) = nodeAt? nodes (position :: rest) := by
  cases rest <;> simp [nodeAt?]

theorem nodeAt?_cons_zero (node : NodeDraft) (nodes : List NodeDraft) (rest : NodePath) :
    nodeAt? (node :: nodes) (0 :: rest) =
      if rest = [] then some node else nodeAt? node.inner rest := by
  cases rest <;> simp [nodeAt?]

/-- A path that leads somewhere has a first position. -/
theorem exists_position_iff {nodes : List NodeDraft} {path : NodePath} {found : NodeDraft} :
    (∃ position rest, path = (0 + position) :: rest ∧
      nodeAt? nodes (position :: rest) = some found) ↔ nodeAt? nodes path = some found := by
  constructor
  · rintro ⟨position, rest, rfl, leads⟩
    rwa [Nat.zero_add]
  · intro leads
    cases path with
    | nil => simp at leads
    | cons position rest => exact ⟨position, rest, by rw [Nat.zero_add], leads⟩

/-! ### The order of the document -/

/-- **Which of two nodes comes first**: a node before the nodes inside it, and these before the
later siblings. -/
def NodePath.Before : NodePath → NodePath → Prop
  | _, [] => False
  | [], _ :: _ => True
  | position :: rest, other :: others =>
    position < other ∨ position = other ∧ NodePath.Before rest others

theorem NodePath.Before.asymm : ∀ {path other : NodePath}, path.Before other → ¬ other.Before path
  | [], [], before => False.elim before
  | _ :: _, [], before => False.elim before
  | [], _ :: _, _ => id
  | position :: rest, other :: others, before => by
      rintro (less | ⟨equal, after⟩)
      · rcases before with greater | ⟨equal, _⟩ <;> omega
      · rcases before with greater | ⟨_, inside⟩
        · omega
        · exact inside.asymm after

theorem NodePath.Before.irrefl (path : NodePath) : ¬ path.Before path :=
  fun before => before.asymm before

/-! ### All nodes in order -/

abbrev Visit : Type := NodePath × NodeDraft

/-- The visit of a node inside the one at a position. -/
def Visit.below (position : Nat) (visit : Visit) : Visit := (position :: visit.1, visit.2)

mutual

def NodeDraft.visitsWithin : NodeDraft → List Visit
  | ⟨_, some _, _, _, some nodes⟩ => visitsFrom 0 nodes
  | _ => []

/-- The visits of nodes, and of all that is inside them, from a position on. -/
def visitsFrom (position : Nat) : List NodeDraft → List Visit
  | [] => []
  | node :: nodes =>
    ([position], node) :: node.visitsWithin.map (Visit.below position) ++
      visitsFrom (position + 1) nodes

end

/-- **All nodes with their paths**, in the order of the document. -/
def visits (nodes : List NodeDraft) : List Visit := visitsFrom 0 nodes

mutual

theorem NodeDraft.mem_visitsWithin_iff :
    ∀ (node : NodeDraft) (path : NodePath) (found : NodeDraft),
      (path, found) ∈ node.visitsWithin ↔ nodeAt? node.inner path = some found
  | ⟨_, some _, _, _, some nodes⟩, path, found => by
      rw [NodeDraft.visitsWithin, mem_visitsFrom_iff nodes 0, NodeDraft.inner,
        exists_position_iff]
  | ⟨_, some _, _, _, none⟩, path, found => by simp [NodeDraft.visitsWithin, NodeDraft.inner]
  | ⟨_, none, _, _, _⟩, path, found => by simp [NodeDraft.visitsWithin, NodeDraft.inner]

/-- **The list from a position on has exactly the nodes that paths lead to.** -/
theorem mem_visitsFrom_iff :
    ∀ (nodes : List NodeDraft) (start : Nat) (path : NodePath) (found : NodeDraft),
      (path, found) ∈ visitsFrom start nodes ↔
        ∃ position rest, path = (start + position) :: rest ∧
          nodeAt? nodes (position :: rest) = some found
  | [], start, path, found => by simp [visitsFrom]
  | node :: nodes, start, path, found => by
      have within := NodeDraft.mem_visitsWithin_iff node
      have later := mem_visitsFrom_iff nodes (start + 1) path found
      rw [visitsFrom, List.mem_append, List.mem_cons, List.mem_map, later]
      -- A path leads to the node, to one inside of it, or on to the siblings behind it.
      constructor
      · rintro ((here | ⟨⟨rest, deeper⟩, member, below⟩) | ⟨position, rest, rfl, leads⟩)
        · obtain ⟨rfl, rfl⟩ := Prod.mk.inj here
          exact ⟨0, [], rfl, by simp [nodeAt?_cons_zero]⟩
        · obtain ⟨rfl, rfl⟩ := Prod.mk.inj below
          have leads := (within rest deeper).1 member
          refine ⟨0, rest, rfl, ?_⟩
          rw [nodeAt?_cons_zero, if_neg, leads]
          rintro rfl
          simp at leads
        · refine ⟨position + 1, rest, by rw [Nat.add_assoc, Nat.add_comm 1], ?_⟩
          rw [nodeAt?_cons_succ, leads]
      · rintro ⟨position, rest, rfl, leads⟩
        cases position with
        | zero =>
            rw [nodeAt?_cons_zero] at leads
            left
            split at leads
            case isTrue top =>
              left
              rw [top, Option.some.inj leads]
              rfl
            case isFalse =>
              right
              exact ⟨(rest, found), (within rest found).2 leads, rfl⟩
        | succ position =>
            rw [nodeAt?_cons_succ] at leads
            right
            exact ⟨position, rest, by rw [Nat.add_assoc, Nat.add_comm 1], leads⟩

end

/-- **The list has exactly the nodes that paths lead to.** -/
theorem mem_visits_iff (nodes : List NodeDraft) (path : NodePath) (found : NodeDraft) :
    (path, found) ∈ visits nodes ↔ nodeAt? nodes path = some found := by
  rw [visits, mem_visitsFrom_iff, exists_position_iff]

mutual

theorem NodeDraft.visitsWithin_sorted :
    ∀ node : NodeDraft, node.visitsWithin.Pairwise fun visit other => visit.1.Before other.1
  | ⟨_, some _, _, _, some nodes⟩ => by
      rw [NodeDraft.visitsWithin]
      exact visitsFrom_sorted nodes 0
  | ⟨_, some _, _, _, none⟩ => List.Pairwise.nil
  | ⟨_, none, _, _, _⟩ => by
      rw [NodeDraft.visitsWithin]
      · exact List.Pairwise.nil
      · intros
        simp_all

theorem visitsFrom_sorted :
    ∀ (nodes : List NodeDraft) (start : Nat),
      (visitsFrom start nodes).Pairwise fun visit other => visit.1.Before other.1
  | [], start => List.Pairwise.nil
  | node :: nodes, start => by
      have within := NodeDraft.visitsWithin_sorted node
      have later := visitsFrom_sorted nodes (start + 1)
      have inside : ∀ visit ∈ node.visitsWithin, visit.1 ≠ [] := by
        rintro ⟨path, found⟩ member rfl
        simpa using (NodeDraft.mem_visitsWithin_iff node [] found).1 member
      have behind : ∀ visit ∈ visitsFrom (start + 1) nodes,
          ∃ position rest, visit.1 = (start + 1 + position) :: rest := by
        rintro ⟨path, found⟩ member
        obtain ⟨position, rest, equal, _⟩ := (mem_visitsFrom_iff nodes _ path found).1 member
        exact ⟨position, rest, equal⟩
      -- The node and all inside it have the first position, and the siblings have later ones.
      rw [visitsFrom, List.pairwise_append, List.pairwise_cons, List.pairwise_map]
      refine ⟨⟨?_, within.imp fun before => Or.inr ⟨rfl, before⟩⟩, later, ?_⟩
      · intro visit member
        obtain ⟨⟨path, found⟩, within, rfl⟩ := List.mem_map.1 member
        refine Or.inr ⟨rfl, ?_⟩
        cases path with
        | nil => exact absurd rfl (inside ([], found) within)
        | cons position rest => exact True.intro
      · intro visit member other behindIt
        obtain ⟨position, rest, equal⟩ := behind other behindIt
        have here : ∃ deeper, visit.1 = start :: deeper := by
          rcases List.mem_cons.1 member with rfl | member
          · exact ⟨[], rfl⟩
          · obtain ⟨visit, _, rfl⟩ := List.mem_map.1 member
            exact ⟨visit.1, rfl⟩
        obtain ⟨deeper, first⟩ := here
        rw [equal, first]
        exact Or.inl (by omega)

end

/-- **The list is in the order of the document.** -/
theorem visits_sorted (nodes : List NodeDraft) :
    (visits nodes).Pairwise fun visit other => visit.1.Before other.1 :=
  visitsFrom_sorted nodes 0

/-! ### The first node that breaks a rule -/

def Visit.refusal? (path : NodePath) (visit : Visit) : Option NodeRefusal :=
  visit.2.fault?.map fun rule => (path ++ visit.1, rule)

/-- **A path leads to the first node that breaks a rule**, and the rule is the first that it
breaks. -/
def FirstFault (nodes : List NodeDraft) (path : NodePath) (rule : NodeFault) : Prop :=
  ∃ node, nodeAt? nodes path = some node ∧ node.fault? = some rule ∧
    ∀ other earlier, other.Before path → nodeAt? nodes other = some earlier → earlier.IsProper

/-- The first entry of the list that breaks a rule is the first node that does. -/
theorem firstFault_of_findSome? {nodes : List NodeDraft} {path : NodePath} {rule : NodeFault}
    (first : (visits nodes).findSome? (Visit.refusal? []) = some (path, rule)) :
    FirstFault nodes path rule := by
  obtain ⟨earlier, ⟨place, node⟩, later, equal, refused, proper⟩ :=
    List.findSome?_eq_some_iff.1 first
  obtain ⟨broken, found, same⟩ := Option.map_eq_some_iff.1 refused
  obtain ⟨rfl, rfl⟩ := Prod.mk.inj same
  -- The list is in order, so all that comes earlier in the document stands in front in the list.
  have sorted := visits_sorted nodes
  rw [equal, List.pairwise_append, List.pairwise_cons] at sorted
  obtain ⟨_, ⟨behind, _⟩, _⟩ := sorted
  refine ⟨node, ?_, found, ?_⟩
  · rw [← mem_visits_iff, equal]
    exact List.mem_append_right _ (List.mem_cons_self ..)
  · intro other before precedes leads
    rw [← mem_visits_iff, equal, List.mem_append, List.mem_cons] at leads
    rcases leads with member | same | member
    · have none := proper _ member
      rw [Visit.refusal?, Option.map_eq_none_iff] at none
      exact (NodeDraft.fault?_eq_none_iff before).1 none
    · obtain ⟨rfl, _⟩ := Prod.mk.inj same
      exact absurd precedes (NodePath.Before.irrefl _)
    · exact absurd precedes (behind _ member).asymm

/-- No entry of the list breaks a rule exactly if every node is proper. -/
theorem findSome?_eq_none_iff_proper (nodes : List NodeDraft) (path : NodePath) :
    (visits nodes).findSome? (Visit.refusal? path) = none ↔
      ∀ place node, nodeAt? nodes place = some node → node.IsProper := by
  rw [List.findSome?_eq_none_iff]
  constructor
  · intro none place node leads
    have none := none (place, node) ((mem_visits_iff nodes place node).2 leads)
    rw [Visit.refusal?, Option.map_eq_none_iff] at none
    exact (NodeDraft.fault?_eq_none_iff node).1 none
  · rintro proper ⟨place, node⟩ member
    have leads := (mem_visits_iff nodes place node).1 member
    rw [Visit.refusal?, (NodeDraft.fault?_eq_none_iff node).2 (proper place node leads)]
    rfl

/-! ### The words for a path -/

theorem NodePath.words_eq (path : NodePath) :
    path.words = ".".intercalate (path.map fun position => "nodes[" ++ position.repr ++ "]") := rfl

theorem NodePath.toList_words_cons (position : Nat) (rest : NodePath) :
    (NodePath.words (position :: rest)).toList =
      "nodes[".toList ++ (Nat.toDigits 10 position ++ ']' ::
        if rest = [] then [] else '.' :: rest.words.toList) := by
  cases rest <;> simp [NodePath.words_eq]

theorem toDigits_ten_injective {n m : Nat} (equal : Nat.toDigits 10 n = Nat.toDigits 10 m) :
    n = m := by
  rw [← Nat.ofDigitChars_ten_toDigits (n := n), equal, Nat.ofDigitChars_ten_toDigits]

/-- A text is cut at the first occurrence of a character in one way only. -/
theorem append_cons_inj {c : Char} {front back text other : List Char} (noFront : c ∉ front)
    (noBack : c ∉ back) (equal : front ++ c :: text = back ++ c :: other) :
    front = back ∧ text = other := by
  induction front generalizing back with
  | nil =>
      cases back with
      | nil => exact ⟨rfl, (List.cons.inj equal).2⟩
      | cons d back => exact absurd (List.cons.inj equal).1 (by simp_all)
  | cons e front ih =>
      cases back with
      | nil => exact absurd (List.cons.inj equal).1 (by simp_all [eq_comm])
      | cons d back =>
          obtain ⟨first, others⟩ := List.cons.inj equal
          obtain ⟨rfl, rfl⟩ := ih (List.not_mem_of_not_mem_cons noFront)
            (List.not_mem_of_not_mem_cons noBack) others
          exact ⟨by rw [first], rfl⟩

theorem bracket_not_mem_toDigits (n : Nat) : ']' ∉ Nat.toDigits 10 n := by
  intro member
  have := Nat.isDigit_of_mem_toDigits (by omega) (by omega) member
  exact absurd this (by decide)

/-- **The words for a path tell where it leads.** -/
theorem NodePath.words_injective {path other : NodePath} (equal : path.words = other.words) :
    path = other := by
  have equal : path.words.toList = other.words.toList := by rw [equal]
  induction path generalizing other with
  | nil =>
      cases other with
      | nil => rfl
      | cons position rest => simp [NodePath.words_eq] at equal
  | cons position rest ih =>
      cases other with
      | nil => simp [NodePath.words_eq] at equal
      | cons next others =>
          rw [NodePath.toList_words_cons, NodePath.toList_words_cons,
            List.append_cancel_left_eq] at equal
          -- No digit is a bracket, so the first bracket ends the first position.
          obtain ⟨digits, behind⟩ := append_cons_inj (bracket_not_mem_toDigits position)
            (bracket_not_mem_toDigits next) equal
          obtain rfl := toDigits_ten_injective digits
          by_cases last : rest = [] <;> by_cases otherLast : others = []
          · rw [last, otherLast]
          · simp [last, otherLast] at behind
          · simp [last, otherLast] at behind
          · rw [if_neg last, if_neg otherLast] at behind
            have deeper := (List.cons.inj behind).2
            rw [ih (String.toList_inj.1 deeper) deeper]

end CodeBlocks
