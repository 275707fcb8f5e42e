import FlowClient.Proofs.Tree.Change
import Mathlib.Data.List.Basic
import Mathlib.Data.List.Induction

/-! Changes that are made more than once. A change that overwrites leaves nothing of what it
did earlier: if it is made again after others, it does not matter whether it was made before
them. That goes from labels to the trees that bear them, wherever in the tree the changes
are made, and from single changes to lists of them. -/

namespace FlowClient

/-! ## Overwriting -/

section Folds

variable {σ β : Type} {step : σ → β → σ}

/-- That a step overwrites what it did earlier, whatever step was taken since. -/
structure Overwrites (step : σ → β → σ) : Prop where
  again : ∀ state input, step (step state input) input = step state input
  since : ∀ state input other,
    step (step (step state input) other) input = step (step state other) input

/-- To set what is given overwrites, and so does to leave what is not given. -/
theorem overwrites_getD : Overwrites fun (value : σ) (given : Option σ) => given.getD value where
  again := fun _ given => by cases given <;> rfl
  since := fun _ given _ => by cases given <;> rfl

/-- A step that is taken again after any number of others need not have been taken before. -/
theorem Overwrites.foldl_step (overwrites : Overwrites step) (inputs : List β) (state : σ)
    (input : β) :
    step (inputs.foldl step (step state input)) input = step (inputs.foldl step state) input := by
  induction inputs using List.reverseRecOn with
  | nil => exact overwrites.again state input
  | append_singleton inputs other induction =>
      rw [List.foldl_concat, List.foldl_concat, ← overwrites.since, induction, overwrites.since]

/-- Taking all of the steps a second time makes no difference. -/
theorem Overwrites.foldl_foldl (overwrites : Overwrites step) (inputs : List β) (state : σ) :
    inputs.foldl step (inputs.foldl step state) = inputs.foldl step state := by
  induction inputs using List.reverseRecOn with
  | nil => rfl
  | append_singleton inputs input induction =>
      rw [List.foldl_concat, List.foldl_concat, overwrites.foldl_step, induction]

end Folds

/-! ## Changes that always succeed -/

section Total

variable {α : Type} (nameOf : α → String)

/-- The trees with the first of this name changed, if there is one. -/
def changeNamed (name : String) (change : Tree α → Tree α) : List (Tree α) → List (Tree α)
  | [] => []
  | tree :: rest =>
      if nameOf tree.label = name then change tree :: rest
      else tree :: changeNamed name change rest

def Tree.relabel (change : α → α) : List String → Tree α → Tree α
  | [], .node label children => .node (change label) children
  | name :: rest, .node label children =>
      .node label (changeNamed nameOf name (Tree.relabel change rest) children)

def relabelPath (change : α → α) : List String → List (Tree α) → List (Tree α)
  | [], trees => trees
  | name :: rest, trees => changeNamed nameOf name (Tree.relabel nameOf change rest) trees

end Total

variable {α : Type} {nameOf : α → String} {name other : String}

/-- A change that may fail, and leaves what it fails on. -/
theorem getD_changeNamed? {change? : Tree α → Option (Tree α)} {change : Tree α → Tree α}
    (same : ∀ tree, (change? tree).getD tree = change tree) (trees : List (Tree α)) :
    (changeNamed? nameOf name change? trees).getD trees = changeNamed nameOf name change trees := by
  induction trees with
  | nil => rfl
  | cons tree rest induction =>
      rw [changeNamed?, changeNamed, ← same, ← induction]
      split
      · cases change? tree <;> rfl
      · cases changeNamed? nameOf name change? rest <;> rfl

theorem getD_relabel? (change : α → α) (segments : List String) (tree : Tree α) :
    (tree.relabel? nameOf change segments).getD tree = tree.relabel nameOf change segments := by
  induction segments generalizing tree with
  | nil => cases tree with | node label children => rfl
  | cons segment segments induction =>
      cases tree with
      | node label children =>
          rw [Tree.relabel?, Tree.relabel, ← getD_changeNamed? induction]
          cases changeNamed? nameOf segment (Tree.relabel? nameOf change segments) children <;> rfl

theorem getD_relabelPath? (change : α → α) (segments : List String) (trees : List (Tree α)) :
    (relabelPath? nameOf change segments trees).getD trees =
      relabelPath nameOf change segments trees := by
  cases segments with
  | nil => rfl
  | cons segment segments => exact getD_changeNamed? (getD_relabel? change segments) trees

/-! ## Two changes among siblings -/

section Siblings

variable {first second : Tree α → Tree α}

/-- The second change of a name finds the tree that the first has changed. -/
theorem changeNamed_changeNamed (keeps : ∀ tree, nameOf (first tree).label = nameOf tree.label)
    (trees : List (Tree α)) :
    changeNamed nameOf name second (changeNamed nameOf name first trees) =
      changeNamed nameOf name (fun tree => second (first tree)) trees := by
  induction trees with
  | nil => rfl
  | cons tree rest induction =>
      by_cases same : nameOf tree.label = name
      · simp [changeNamed, same, keeps]
      · simp [changeNamed, same, induction]

theorem changeNamed_comm (different : name ≠ other)
    (keepsFirst : ∀ tree, nameOf (first tree).label = nameOf tree.label)
    (keepsSecond : ∀ tree, nameOf (second tree).label = nameOf tree.label)
    (trees : List (Tree α)) :
    changeNamed nameOf name second (changeNamed nameOf other first trees) =
      changeNamed nameOf other first (changeNamed nameOf name second trees) := by
  induction trees with
  | nil => rfl
  | cons tree rest induction =>
      by_cases here : nameOf tree.label = name
      · simp [changeNamed, here, different, keepsSecond]
      · by_cases there : nameOf tree.label = other
        · simp [changeNamed, there, Ne.symm different, keepsFirst]
        · simp [changeNamed, here, there, induction]

/-- Of two changes, the one that is made again overwrites what it did before the other. -/
theorem changeNamed_since (keepsFirst : ∀ tree, nameOf (first tree).label = nameOf tree.label)
    (keepsSecond : ∀ tree, nameOf (second tree).label = nameOf tree.label)
    (again : ∀ tree, first (first tree) = first tree)
    (since : ∀ tree, first (second (first tree)) = first (second tree)) (trees : List (Tree α)) :
    changeNamed nameOf name first
        (changeNamed nameOf other second (changeNamed nameOf name first trees)) =
      changeNamed nameOf name first (changeNamed nameOf other second trees) := by
  by_cases same : name = other
  · subst same
    have keepsBoth (tree : Tree α) : nameOf (second (first tree)).label = nameOf tree.label :=
      (keepsSecond (first tree)).trans (keepsFirst tree)
    rw [changeNamed_changeNamed keepsFirst, changeNamed_changeNamed keepsBoth,
      changeNamed_changeNamed keepsSecond]
    simp only [since]
  · rw [changeNamed_comm (Ne.symm same) keepsFirst keepsSecond, changeNamed_changeNamed keepsFirst]
    simp only [again]

end Siblings

/-! ## Two changes in a tree -/

section Labels

variable {first second : α → α}

theorem name_relabel (keeps : ∀ label, nameOf (first label) = nameOf label)
    (segments : List String) (tree : Tree α) :
    nameOf (tree.relabel nameOf first segments).label = nameOf tree.label := by
  cases tree with
  | node label children => cases segments <;> simp [Tree.relabel, keeps]

variable (keepsFirst : ∀ label, nameOf (first label) = nameOf label)
  (again : ∀ label, first (first label) = first label)

include keepsFirst again

theorem relabel_relabel (segments : List String) (tree : Tree α) :
    (tree.relabel nameOf first segments).relabel nameOf first segments =
      tree.relabel nameOf first segments := by
  induction segments generalizing tree with
  | nil => cases tree with | node label children => simp [Tree.relabel, again]
  | cons segment segments induction =>
      cases tree with
      | node label children =>
          rw [Tree.relabel, Tree.relabel, changeNamed_changeNamed (name_relabel keepsFirst segments)]
          simp only [induction]

theorem relabelPath_relabelPath (segments : List String) (trees : List (Tree α)) :
    relabelPath nameOf first segments (relabelPath nameOf first segments trees) =
      relabelPath nameOf first segments trees := by
  cases segments with
  | nil => rfl
  | cons segment segments =>
      rw [relabelPath, relabelPath, changeNamed_changeNamed (name_relabel keepsFirst segments)]
      simp only [relabel_relabel keepsFirst again]

variable (keepsSecond : ∀ label, nameOf (second label) = nameOf label)
  (since : ∀ label, first (second (first label)) = first (second label))

include keepsSecond since

/-- The changes may be made at one node, one below the other, or beside each other. -/
theorem relabel_since (segments others : List String) (tree : Tree α) :
    ((tree.relabel nameOf first segments).relabel nameOf second others).relabel nameOf first
        segments =
      (tree.relabel nameOf second others).relabel nameOf first segments := by
  induction segments generalizing others tree with
  | nil =>
      cases tree with
      | node label children => cases others <;> simp [Tree.relabel, again, since]
  | cons segment segments induction =>
      cases tree with
      | node label children =>
          cases others with
          | nil => exact relabel_relabel keepsFirst again (segment :: segments) (.node _ children)
          | cons other others =>
              exact congrArg (Tree.node label) (changeNamed_since (name_relabel keepsFirst segments)
                (name_relabel keepsSecond others) (relabel_relabel keepsFirst again segments)
                (induction others) children)

theorem relabelPath_since (segments others : List String) (trees : List (Tree α)) :
    relabelPath nameOf first segments
        (relabelPath nameOf second others (relabelPath nameOf first segments trees)) =
      relabelPath nameOf first segments (relabelPath nameOf second others trees) := by
  cases segments with
  | nil => rfl
  | cons segment segments =>
      cases others with
      | nil => exact relabelPath_relabelPath keepsFirst again (segment :: segments) trees
      | cons other others =>
          exact changeNamed_since (name_relabel keepsFirst segments)
            (name_relabel keepsSecond others) (relabel_relabel keepsFirst again segments)
            (relabel_since keepsFirst again keepsSecond since segments others) trees

end Labels

/-- Changes of labels that overwrite do so at any nodes of a tree. -/
theorem Overwrites.relabelPath {β : Type} {step : α → β → α} (overwrites : Overwrites step)
    (nameOf : α → String) (keeps : ∀ label input, nameOf (step label input) = nameOf label)
    (pathOf : β → List String) :
    Overwrites fun trees input => relabelPath nameOf (step · input) (pathOf input) trees where
  again := fun trees input => relabelPath_relabelPath (keeps · input)
    (overwrites.again · input) (pathOf input) trees
  since := fun trees input other => relabelPath_since (keeps · input)
    (overwrites.again · input) (keeps · other) (overwrites.since · input other) (pathOf input)
    (pathOf other) trees

end FlowClient
