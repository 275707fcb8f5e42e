import FlowClient.Proofs.Tree.Lookup
import Mathlib.Data.List.Nodup

/-! Places in a tree. A place is given by indices, so it can be told apart from all others even
where trees are equal. Where siblings differ by name, the names on the way to a place lead to
what is there, and to no other place. -/

namespace FlowClient

variable {α : Type}

def Tree.at? : List Nat → Tree α → Option (Tree α)
  | [], tree => some tree
  | index :: place, tree => tree.children[index]?.bind (Tree.at? place)

/-- What is at a place: the index of a tree, then that of a child, and so on. -/
def placed? : List Nat → List (Tree α) → Option (Tree α)
  | [], _ => none
  | index :: place, trees => trees[index]?.bind (Tree.at? place)

section Names

variable (nameOf : α → String) (isFit : String → Prop)

mutual
def Tree.WellNamed : Tree α → Prop
  | .node label children => isFit (nameOf label) ∧ AllWellNamed children

/-- That every name is fit, and that no two siblings have the same name. -/
def AllWellNamed : List (Tree α) → Prop
  | [] => True
  | tree :: rest =>
      tree.WellNamed ∧ nameOf tree.label ∉ rest.map (nameOf ·.label) ∧ AllWellNamed rest
end

/-- A tree lies at a place, and these are the names on the way to it, its own included. -/
inductive Lies : List Nat → List String → Tree α → List (Tree α) → Prop
  | here {index trees tree} (found : trees[index]? = some tree) :
      Lies [index] [nameOf tree.label] tree trees
  | deeper {index trees parent place names tree} (found : trees[index]? = some parent)
      (lies : Lies place names tree parent.children) :
      Lies (index :: place) (nameOf parent.label :: names) tree trees

end Names

variable {nameOf : α → String} {isFit : String → Prop} {trees : List (Tree α)} {tree other : Tree α}
  {place elsewhere : List Nat} {names otherNames : List String}

theorem allWellNamed_iff : AllWellNamed nameOf isFit trees ↔
    (∀ tree ∈ trees, tree.WellNamed nameOf isFit) ∧ (trees.map (nameOf ·.label)).Nodup := by
  induction trees with
  | nil => simp [AllWellNamed]
  | cons tree rest induction =>
      rw [AllWellNamed, induction, List.forall_mem_cons, List.map_cons, List.nodup_cons]
      constructor
      · rintro ⟨first, absent, others, distinct⟩
        exact ⟨⟨first, others⟩, absent, distinct⟩
      · rintro ⟨⟨first, others⟩, absent, distinct⟩
        exact ⟨first, absent, others, distinct⟩

theorem Tree.WellNamed.fit (wellNamed : tree.WellNamed nameOf isFit) :
    isFit (nameOf tree.label) := by
  cases tree with
  | node label children => exact wellNamed.1

theorem Tree.WellNamed.children (wellNamed : tree.WellNamed nameOf isFit) :
    AllWellNamed nameOf isFit tree.children := by
  cases tree with
  | node label children => exact wellNamed.2

theorem AllWellNamed.of_getElem? (wellNamed : AllWellNamed nameOf isFit trees) {index : Nat}
    (found : trees[index]? = some tree) : tree.WellNamed nameOf isFit :=
  (allWellNamed_iff.mp wellNamed).1 tree (List.mem_of_getElem? found)

theorem AllWellNamed.filter (wellNamed : AllWellNamed nameOf isFit trees) (keep : Tree α → Bool) :
    AllWellNamed nameOf isFit (trees.filter keep) := by
  obtain ⟨each, distinct⟩ := allWellNamed_iff.mp wellNamed
  apply allWellNamed_iff.mpr
  exact ⟨fun tree member => each tree (List.mem_of_mem_filter member),
    distinct.sublist (List.filter_sublist.map _)⟩

/-- Among siblings that differ by name, the name of one leads to it. -/
theorem AllWellNamed.findNamed? (wellNamed : AllWellNamed nameOf isFit trees) {index : Nat}
    (found : trees[index]? = some tree) :
    FlowClient.findNamed? nameOf (nameOf tree.label) trees = some tree := by
  induction trees generalizing index with
  | nil => simp at found
  | cons head rest induction =>
      obtain ⟨-, absent, below⟩ := wellNamed
      cases index with
      | zero =>
          rw [List.getElem?_cons_zero, Option.some.injEq] at found
          simp [FlowClient.findNamed?, found]
      | succ index =>
          rw [List.getElem?_cons_succ] at found
          have different : nameOf head.label ≠ nameOf tree.label := by
            intro same
            exact absent (same ▸ List.mem_map_of_mem (List.mem_of_getElem? found))
          rw [FlowClient.findNamed?, if_neg different, induction below found]

theorem AllWellNamed.index_unique (wellNamed : AllWellNamed nameOf isFit trees) {first second : Nat}
    (found : trees[first]? = some tree) (foundOther : trees[second]? = some other)
    (same : nameOf tree.label = nameOf other.label) : first = second := by
  have distinct := (allWellNamed_iff.mp wellNamed).2
  have within : first < (trees.map (nameOf ·.label)).length := by
    simpa using (List.getElem?_eq_some_iff.mp found).1
  apply (List.getElem?_inj within distinct).mp
  simp [found, foundOther, same]

/-! ## Names on the way -/

theorem exists_lies (nameOf : α → String) (found : placed? place trees = some tree) :
    ∃ names, Lies nameOf place names tree trees := by
  induction place generalizing trees with
  | nil => cases found
  | cons index place induction =>
      obtain ⟨parent, isParent, below⟩ := Option.bind_eq_some_iff.mp found
      cases place with
      | nil =>
          obtain rfl : parent = tree := Option.some.inj below
          exact ⟨_, .here isParent⟩
      | cons next place =>
          obtain ⟨names, lies⟩ := induction below
          exact ⟨_, .deeper isParent lies⟩

theorem Lies.names_ne_nil (lies : Lies nameOf place names tree trees) : names ≠ [] := by
  cases lies <;> simp

theorem Lies.fit (lies : Lies nameOf place names tree trees)
    (wellNamed : AllWellNamed nameOf isFit trees) : ∀ name ∈ names, isFit name := by
  induction lies with
  | here found =>
      intro name member
      rw [List.mem_singleton.mp member]
      exact (wellNamed.of_getElem? found).fit
  | deeper found _ induction =>
      have parent := wellNamed.of_getElem? found
      exact List.forall_mem_cons.mpr ⟨parent.fit, induction parent.children⟩

theorem Lies.findPath? (lies : Lies nameOf place names tree trees)
    (wellNamed : AllWellNamed nameOf isFit trees) :
    FlowClient.findPath? nameOf names trees = some tree := by
  induction lies with
  | here found => simp [FlowClient.findPath?, wellNamed.findNamed? found, Tree.descend?]
  | deeper found lies induction =>
      have below := induction (wellNamed.of_getElem? found).children
      obtain ⟨first, others, rfl⟩ := List.exists_cons_of_ne_nil lies.names_ne_nil
      rw [FlowClient.findPath?, wellNamed.findNamed? found]
      exact below

/-- The names on the way to a place lead nowhere else. -/
theorem Lies.unique (lies : Lies nameOf place names tree trees)
    (otherLies : Lies nameOf elsewhere otherNames other trees) (same : otherNames = names)
    (wellNamed : AllWellNamed nameOf isFit trees) : elsewhere = place := by
  induction lies generalizing elsewhere otherNames other with
  | here found =>
      cases otherLies with
      | here foundOther =>
          rw [wellNamed.index_unique foundOther found (List.cons.inj same).1]
      | deeper foundOther lies => exact absurd (List.cons.inj same).2 lies.names_ne_nil
  | deeper found lies induction =>
      cases otherLies with
      | here foundOther => exact absurd (List.cons.inj same).2.symm lies.names_ne_nil
      | deeper foundOther otherLies =>
          obtain ⟨sameParent, sameBelow⟩ := List.cons.inj same
          obtain rfl := wellNamed.index_unique foundOther found sameParent
          obtain rfl := Option.some.inj (found.symm.trans foundOther)
          rw [induction otherLies sameBelow (wellNamed.of_getElem? found).children]

end FlowClient
