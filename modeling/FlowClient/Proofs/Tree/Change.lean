import FlowClient.Tree

/-! Changes by name, seen through a choice among the trees and through an image of them.
A choice that goes by names, and an image that keeps them, do not disturb which tree
is the first of its name, and so it makes no difference whether the change comes
before or after. -/

namespace FlowClient

variable {α β : Type} {nameOf : α → String} {name : String}

/-! ## Where there is nothing to change -/

theorem changeNamed?_eq_none {change : Tree α → Option (Tree α)} {trees : List (Tree α)}
    (absent : findNamed? nameOf name trees = none) :
    changeNamed? nameOf name change trees = none := by
  induction trees with
  | nil => rfl
  | cons tree rest induction =>
      rw [findNamed?] at absent
      split at absent
      · cases absent
      · rename_i different
        rw [changeNamed?, if_neg different, induction absent]
        rfl

/-! ## Where there is something to change -/

theorem changeNamed?_isSome {change : Tree α → Option (Tree α)} {trees : List (Tree α)}
    {tree : Tree α} (found : findNamed? nameOf name trees = some tree)
    (changes : (change tree).isSome = true) :
    (changeNamed? nameOf name change trees).isSome = true := by
  induction trees with
  | nil => cases found
  | cons head rest induction =>
      rw [findNamed?] at found
      rw [changeNamed?]
      split at found
      · rename_i same
        rw [if_pos same, Option.some.inj found]
        simpa using changes
      · rename_i different
        rw [if_neg different]
        simpa using induction found

/-- A change takes no tree away and adds none. -/
theorem length_changeNamed? {change : Tree α → Option (Tree α)} {trees changed : List (Tree α)}
    (made : changeNamed? nameOf name change trees = some changed) :
    changed.length = trees.length := by
  induction trees generalizing changed with
  | nil => cases made
  | cons tree rest induction =>
      rw [changeNamed?] at made
      split at made
      · rcases Option.map_eq_some_iff.mp made with ⟨first, -, rfl⟩
        rfl
      · rcases Option.map_eq_some_iff.mp made with ⟨later, found, rfl⟩
        exact congrArg (· + 1) (induction found)

/-- What can be reached along a path can be relabelled there. -/
theorem relabel?_isSome (change : α → α) (segments : List String) {tree found : Tree α}
    (reached : tree.descend? nameOf segments = some found) :
    (tree.relabel? nameOf change segments).isSome = true := by
  induction segments generalizing tree with
  | nil => cases tree with | node label children => rfl
  | cons segment segments induction =>
      cases tree with
      | node label children =>
          rcases Option.bind_eq_some_iff.mp reached with ⟨child, childFound, below⟩
          rw [Tree.relabel?, Option.isSome_map]
          exact changeNamed?_isSome childFound (induction below)

theorem relabelPath?_isSome (change : α → α) {segments : List String} {trees : List (Tree α)}
    {found : Tree α} (reached : findPath? nameOf segments trees = some found) :
    (relabelPath? nameOf change segments trees).isSome = true := by
  cases segments with
  | nil => cases reached
  | cons segment segments =>
      rcases Option.bind_eq_some_iff.mp reached with ⟨tree, treeFound, below⟩
      exact changeNamed?_isSome treeFound (relabel?_isSome change segments below)

/-! ## Choices by name -/

theorem findNamed?_filter {accepts : String → Bool} (accepted : accepts name = true)
    (trees : List (Tree α)) :
    findNamed? nameOf name (trees.filter (accepts <| nameOf ·.label)) =
      findNamed? nameOf name trees := by
  induction trees with
  | nil => rfl
  | cons tree rest induction =>
      by_cases same : nameOf tree.label = name
      · simp [findNamed?, same, accepted]
      · cases chosen : accepts (nameOf tree.label) <;>
          simp [findNamed?, same, chosen, induction]

theorem findNamed?_filter_rejected {accepts : String → Bool} (rejected : accepts name = false)
    (trees : List (Tree α)) :
    findNamed? nameOf name (trees.filter (accepts <| nameOf ·.label)) = none := by
  induction trees with
  | nil => rfl
  | cons tree rest induction =>
      cases chosen : accepts (nameOf tree.label) with
      | true =>
          have different : nameOf tree.label ≠ name := by
            rintro rfl
            simp [chosen] at rejected
          simp [chosen, findNamed?, different, induction]
      | false => simp [chosen, induction]

/-- A change of one tree can be made before or after a choice that accepts its name. -/
theorem changeNamed?_filter {accepts : String → Bool} (accepted : accepts name = true)
    {change : Tree α → Option (Tree α)}
    (keeps : ∀ tree changed, change tree = some changed → nameOf changed.label = nameOf tree.label)
    (trees : List (Tree α)) :
    changeNamed? nameOf name change (trees.filter (accepts <| nameOf ·.label)) =
      (changeNamed? nameOf name change trees).map (·.filter (accepts <| nameOf ·.label)) := by
  induction trees with
  | nil => rfl
  | cons tree rest induction =>
      by_cases same : nameOf tree.label = name
      · have chosen : accepts (nameOf tree.label) = true := same ▸ accepted
        simp only [List.filter_cons, chosen, if_true, changeNamed?, if_pos same]
        cases changed : change tree with
        | none => rfl
        | some later =>
            have laterChosen : accepts (nameOf later.label) = true :=
              keeps tree later changed ▸ chosen
            simp [laterChosen]
      · rw [changeNamed?, if_neg same]
        cases chosen : accepts (nameOf tree.label) with
        | true =>
            simp only [List.filter_cons, chosen, if_true, changeNamed?, if_neg same, induction]
            cases changeNamed? nameOf name change rest <;> simp [chosen]
        | false =>
            simp only [List.filter_cons, chosen, Bool.false_eq_true, if_false, induction]
            cases changeNamed? nameOf name change rest <;> simp [chosen]

/-- A choice that does not accept the name of the changed tree does not see the change. -/
theorem filter_changeNamed? {accepts : String → Bool} (rejected : accepts name = false)
    {change : Tree α → Option (Tree α)}
    (keeps : ∀ tree changed, change tree = some changed → nameOf changed.label = nameOf tree.label)
    {trees changed : List (Tree α)} (found : changeNamed? nameOf name change trees = some changed) :
    changed.filter (accepts <| nameOf ·.label) = trees.filter (accepts <| nameOf ·.label) := by
  induction trees generalizing changed with
  | nil => cases found
  | cons tree rest induction =>
      rw [changeNamed?] at found
      split at found
      · rename_i same
        rcases Option.map_eq_some_iff.mp found with ⟨later, changedTree, rfl⟩
        have before : accepts (nameOf tree.label) = false := same ▸ rejected
        have after : accepts (nameOf later.label) = false := keeps tree later changedTree ▸ before
        simp [before, after]
      · rcases Option.map_eq_some_iff.mp found with ⟨changedRest, foundRest, rfl⟩
        simp only [List.filter_cons, induction foundRest]

/-! ## Labels -/

variable {change : α → α}

theorem name_relabel? (keeps : ∀ label, nameOf (change label) = nameOf label)
    (segments : List String) (tree later : Tree α)
    (changed : Tree.relabel? nameOf change segments tree = some later) :
    nameOf later.label = nameOf tree.label := by
  cases tree with
  | node label children =>
      cases segments with
      | nil =>
          rw [Tree.relabel?] at changed
          rw [← Option.some.inj changed]
          exact keeps label
      | cons segment segments =>
          rw [Tree.relabel?] at changed
          rcases Option.map_eq_some_iff.mp changed with ⟨laterChildren, -, rfl⟩
          rfl

end FlowClient
