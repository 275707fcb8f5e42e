import FlowClient.Proofs.Tree.Change

/-! Trees under a map of their labels. A map that keeps names keeps what lies at the end of
a path; and a change of labels that the map does not see is not seen in the image either,
wherever in the tree it is made. -/

namespace FlowClient

variable {α β : Type}

mutual
def Tree.map (image : α → β) : Tree α → Tree β
  | .node label children => .node (image label) (mapForest image children)

def mapForest (image : α → β) : List (Tree α) → List (Tree β)
  | [] => []
  | tree :: rest => tree.map image :: mapForest image rest
end

variable {image : α → β}

@[simp] theorem label_map (tree : Tree α) : (tree.map image).label = image tree.label := by
  cases tree with
  | node label children => simp [Tree.map]

@[simp] theorem children_map (tree : Tree α) :
    (tree.map image).children = mapForest image tree.children := by
  cases tree with
  | node label children => simp [Tree.map]

@[simp] theorem isEmpty_mapForest (trees : List (Tree α)) :
    (mapForest image trees).isEmpty = trees.isEmpty := by
  cases trees <;> simp [mapForest]

/-! ## Lookups -/

section Lookup

variable {image : α → α} (nameOf : α → String)
  (keeps : ∀ label, nameOf (image label) = nameOf label)

include keeps

theorem findNamed?_mapForest (name : String) (trees : List (Tree α)) :
    findNamed? nameOf name (mapForest image trees) =
      (findNamed? nameOf name trees).map (Tree.map image) := by
  induction trees with
  | nil => simp [mapForest, findNamed?]
  | cons tree rest induction =>
      rw [mapForest, findNamed?, findNamed?, label_map, keeps, induction]
      split <;> rfl

theorem descend?_map (segments : List String) (tree : Tree α) :
    (tree.map image).descend? nameOf segments =
      (tree.descend? nameOf segments).map (Tree.map image) := by
  induction segments generalizing tree with
  | nil => rfl
  | cons segment segments induction =>
      rw [Tree.descend?, Tree.descend?, children_map, findNamed?_mapForest nameOf keeps]
      cases findNamed? nameOf segment tree.children with
      | none => rfl
      | some child => exact induction child

theorem findPath?_mapForest (segments : List String) (trees : List (Tree α)) :
    findPath? nameOf segments (mapForest image trees) =
      (findPath? nameOf segments trees).map (Tree.map image) := by
  cases segments with
  | nil => rfl
  | cons segment segments =>
      rw [findPath?, findPath?, findNamed?_mapForest nameOf keeps]
      cases findNamed? nameOf segment trees with
      | none => rfl
      | some tree => exact descend?_map nameOf keeps segments tree

end Lookup

/-! ## Changes -/

section Change

variable {nameOf : α → String}

theorem mapForest_changeNamed? {name : String} {change : Tree α → Option (Tree α)}
    (unseen : ∀ tree later, change tree = some later → later.map image = tree.map image)
    {trees changed : List (Tree α)} (made : changeNamed? nameOf name change trees = some changed) :
    mapForest image changed = mapForest image trees := by
  induction trees generalizing changed with
  | nil => cases made
  | cons tree rest induction =>
      rw [changeNamed?] at made
      split at made
      · rcases Option.map_eq_some_iff.mp made with ⟨later, found, rfl⟩
        rw [mapForest, mapForest, unseen tree later found]
      · rcases Option.map_eq_some_iff.mp made with ⟨later, found, rfl⟩
        rw [mapForest, mapForest, induction found]

variable {change : α → α} (unseen : ∀ label, image (change label) = image label)

include unseen

theorem map_relabel? (segments : List String) (tree later : Tree α)
    (made : tree.relabel? nameOf change segments = some later) :
    later.map image = tree.map image := by
  induction segments generalizing tree later with
  | nil =>
      cases tree with
      | node label children =>
          rw [Tree.relabel?] at made
          rw [← Option.some.inj made, Tree.map, Tree.map, unseen]
  | cons segment segments induction =>
      cases tree with
      | node label children =>
          rw [Tree.relabel?] at made
          rcases Option.map_eq_some_iff.mp made with ⟨laterChildren, found, rfl⟩
          rw [Tree.map, Tree.map, mapForest_changeNamed? induction found]

theorem mapForest_relabelPath? {segments : List String} {trees changed : List (Tree α)}
    (made : relabelPath? nameOf change segments trees = some changed) :
    mapForest image changed = mapForest image trees := by
  cases segments with
  | nil => cases made
  | cons segment segments => exact mapForest_changeNamed? (map_relabel? unseen segments) made

end Change

end FlowClient
