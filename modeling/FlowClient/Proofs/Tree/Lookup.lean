import FlowClient.Proofs.Tree.Change

/-! Lookups after a change of labels. Where the change was made, the path leads to the changed
label and to the children that were there before; every other path leads on as it did, to a
tree that looks the same from its root. Names need not differ, since reading and changing go
by the first of a name alike. -/

namespace FlowClient

variable {α : Type} {nameOf : α → String} {name other : String}

/-- That two trees have the same label, and children of the same names in the same order. What
is further below may differ. -/
structure Tree.Resembles (nameOf : α → String) (before after : Tree α) : Prop where
  label : after.label = before.label
  names : after.children.map (nameOf ·.label) = before.children.map (nameOf ·.label)

theorem Tree.Resembles.rfl (tree : Tree α) : tree.Resembles nameOf tree :=
  ⟨Eq.refl _, Eq.refl _⟩

/-! ## Among siblings -/

section Siblings

theorem findNamed?_eq_find? (trees : List (Tree α)) :
    findNamed? nameOf name trees = trees.find? (nameOf ·.label = name) := by
  induction trees with
  | nil => rfl
  | cons tree rest induction =>
      rw [findNamed?, List.find?_cons, induction]
      by_cases same : nameOf tree.label = name <;> simp [same]

theorem name_of_findNamed? {trees : List (Tree α)} {tree : Tree α}
    (found : findNamed? nameOf name trees = some tree) : nameOf tree.label = name := by
  rw [findNamed?_eq_find?] at found
  simpa using List.find?_some found

variable {change : Tree α → Option (Tree α)} {trees changed : List (Tree α)}

/-- A change by name is a change of the first tree of that name. -/
theorem changeNamed?_split (made : changeNamed? nameOf name change trees = some changed) :
    ∃ before tree later after, trees = before ++ tree :: after ∧
      changed = before ++ later :: after ∧ change tree = some later ∧
      nameOf tree.label = name ∧ ∀ earlier ∈ before, nameOf earlier.label ≠ name := by
  induction trees generalizing changed with
  | nil => cases made
  | cons tree rest induction =>
      rw [changeNamed?] at made
      split at made
      · rename_i same
        rcases Option.map_eq_some_iff.mp made with ⟨later, found, rfl⟩
        exact ⟨[], tree, later, rest, rfl, rfl, found, same, by simp⟩
      · rename_i different
        rcases Option.map_eq_some_iff.mp made with ⟨laterRest, found, rfl⟩
        obtain ⟨before, first, later, after, rfl, rfl, changes, same, others⟩ := induction found
        refine ⟨tree :: before, first, later, after, rfl, rfl, changes, same, ?_⟩
        exact List.forall_mem_cons.mpr ⟨different, others⟩

variable (keeps : ∀ tree later, change tree = some later → nameOf later.label = nameOf tree.label)
  (made : changeNamed? nameOf name change trees = some changed)

include keeps made

theorem names_changeNamed? : changed.map (nameOf ·.label) = trees.map (nameOf ·.label) := by
  obtain ⟨before, tree, later, after, rfl, rfl, changes, -⟩ := changeNamed?_split made
  simp [keeps tree later changes]

theorem findNamed?_changeNamed? : ∃ tree later, findNamed? nameOf name trees = some tree ∧
    change tree = some later ∧ findNamed? nameOf name changed = some later := by
  obtain ⟨before, tree, later, after, rfl, rfl, changes, same, others⟩ := changeNamed?_split made
  have sameLater : nameOf later.label = name := (keeps tree later changes).trans same
  have absent : before.find? (nameOf ·.label = name) = none := by simpa using others
  refine ⟨tree, later, ?_, changes, ?_⟩
  · simp [findNamed?_eq_find?, absent, same]
  · simp [findNamed?_eq_find?, absent, sameLater]

theorem findNamed?_changeNamed?_other (different : other ≠ name) :
    findNamed? nameOf other changed = findNamed? nameOf other trees := by
  obtain ⟨before, tree, later, after, rfl, rfl, changes, same, -⟩ := changeNamed?_split made
  have sameLater : nameOf later.label = name := (keeps tree later changes).trans same
  simp [findNamed?_eq_find?, same, sameLater, Ne.symm different]

end Siblings

/-! ## Along paths -/

section Paths

variable {change : α → α} {segments others : List String} {tree later : Tree α}
  {trees changed : List (Tree α)} (keeps : ∀ label, nameOf (change label) = nameOf label)

include keeps

theorem descend?_relabel? (made : tree.relabel? nameOf change segments = some later) :
    ∃ found, tree.descend? nameOf segments = some found ∧
      later.descend? nameOf segments = some (.node (change found.label) found.children) := by
  induction segments generalizing tree later with
  | nil =>
      cases tree with
      | node label children =>
          rw [Tree.relabel?] at made
          exact ⟨.node label children, rfl, made.symm⟩
  | cons segment segments induction =>
      cases tree with
      | node label children =>
          rw [Tree.relabel?] at made
          rcases Option.map_eq_some_iff.mp made with ⟨laterChildren, madeBelow, rfl⟩
          obtain ⟨child, laterChild, childFound, changes, laterFound⟩ :=
            findNamed?_changeNamed? (name_relabel? keeps segments) madeBelow
          simpa [Tree.descend?, childFound, laterFound] using induction changes

/-- A path that leads elsewhere may part from that of the change, go on below it, or end before
it; only in the last case does it see any of the change, and that far down. -/
theorem descend?_relabel?_other (different : others ≠ segments)
    (made : tree.relabel? nameOf change segments = some later) :
    Option.Rel (Tree.Resembles nameOf) (tree.descend? nameOf others)
      (later.descend? nameOf others) := by
  have unchanged (found : Option (Tree α)) : Option.Rel (Tree.Resembles nameOf) found found := by
    cases found with
    | none => exact .none
    | some found => exact .some (Tree.Resembles.rfl found)
  induction segments generalizing others tree later with
  | nil =>
      cases tree with
      | node label children =>
          rw [Tree.relabel?, Option.some.injEq] at made
          subst made
          cases others with
          | nil => exact absurd rfl different
          | cons other others => exact unchanged _
  | cons segment segments induction =>
      cases tree with
      | node label children =>
          rw [Tree.relabel?] at made
          rcases Option.map_eq_some_iff.mp made with ⟨laterChildren, madeBelow, rfl⟩
          have keepsBelow := name_relabel? keeps segments
          cases others with
          | nil => exact .some ⟨rfl, names_changeNamed? keepsBelow madeBelow⟩
          | cons other others =>
              by_cases same : other = segment
              · subst same
                obtain ⟨child, laterChild, childFound, changes, laterFound⟩ :=
                  findNamed?_changeNamed? keepsBelow madeBelow
                have differentBelow : others ≠ segments := fun equal => different (equal ▸ rfl)
                simpa [Tree.descend?, childFound, laterFound] using
                  induction differentBelow changes
              · have found := findNamed?_changeNamed?_other keepsBelow madeBelow same
                rw [Tree.descend?, Tree.descend?, Tree.children_node, Tree.children_node, found]
                exact unchanged _

omit keeps in
/-- Trees that a path leads into can be taken for the children of one root. -/
theorem relabel?_root (made : relabelPath? nameOf change segments trees = some changed) :
    ∃ label, (Tree.node label trees).relabel? nameOf change segments =
      some (.node label changed) := by
  cases segments with
  | nil => cases made
  | cons segment segments =>
      cases trees with
      | nil => cases made
      | cons tree rest =>
          refine ⟨tree.label, ?_⟩
          rw [relabelPath?] at made
          rw [Tree.relabel?, made, Option.map_some]

theorem findPath?_relabelPath? (made : relabelPath? nameOf change segments trees = some changed) :
    ∃ found, findPath? nameOf segments trees = some found ∧
      findPath? nameOf segments changed =
        some (.node (change found.label) found.children) := by
  obtain ⟨label, madeBelow⟩ := relabel?_root made
  cases segments with
  | nil => cases made
  | cons segment segments => exact descend?_relabel? keeps madeBelow

theorem findPath?_relabelPath?_other (different : others ≠ segments)
    (made : relabelPath? nameOf change segments trees = some changed) :
    Option.Rel (Tree.Resembles nameOf) (findPath? nameOf others trees)
      (findPath? nameOf others changed) := by
  obtain ⟨label, madeBelow⟩ := relabel?_root made
  cases others with
  | nil => exact .none
  | cons other others => exact descend?_relabel?_other keeps different madeBelow

theorem names_relabelPath? (made : relabelPath? nameOf change segments trees = some changed) :
    changed.map (nameOf ·.label) = trees.map (nameOf ·.label) := by
  cases segments with
  | nil => cases made
  | cons segment segments => exact names_changeNamed? (name_relabel? keeps segments) made

end Paths

end FlowClient
