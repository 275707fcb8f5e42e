/-! Ordered trees whose nodes carry a label, and lookups along a list of names.
Among siblings of one name the first is the one that counts, for reading and
for changing alike. -/

namespace FlowClient

inductive Tree (α : Type u) where
  | node (label : α) (children : List (Tree α))
deriving BEq, Repr

namespace Tree

def label : Tree α → α
  | node label _ => label

def children : Tree α → List (Tree α)
  | node _ children => children

@[simp] theorem label_node (label : α) (children : List (Tree α)) :
    (node label children).label = label := rfl

@[simp] theorem children_node (label : α) (children : List (Tree α)) :
    (node label children).children = children := rfl

end Tree

/-! ## Counting -/

mutual
def Tree.size : Tree α → Nat
  | .node _ children => forestSize children + 1

def forestSize : List (Tree α) → Nat
  | [] => 0
  | tree :: rest => tree.size + forestSize rest
end

/-! ## Looking up by name -/

section Lookup

variable (nameOf : α → String)

def findNamed? (name : String) : List (Tree α) → Option (Tree α)
  | [] => none
  | tree :: rest => if nameOf tree.label = name then some tree else findNamed? name rest

/-- The tree reached from the root by a list of child names. -/
def Tree.descend? : List String → Tree α → Option (Tree α)
  | [], tree => some tree
  | name :: rest, tree => (findNamed? nameOf name tree.children).bind (Tree.descend? rest)

def findPath? : List String → List (Tree α) → Option (Tree α)
  | [], _ => none
  | name :: rest, trees => (findNamed? nameOf name trees).bind (Tree.descend? nameOf rest)

end Lookup

/-! ## Changing by name -/

section Change

variable (nameOf : α → String)

def changeNamed? (name : String) (change : Tree α → Option (Tree α)) :
    List (Tree α) → Option (List (Tree α))
  | [] => none
  | tree :: rest =>
      if nameOf tree.label = name then (change tree).map (· :: rest)
      else (changeNamed? name change rest).map (tree :: ·)

def Tree.relabel? (change : α → α) : List String → Tree α → Option (Tree α)
  | [], .node label children => some (.node (change label) children)
  | name :: rest, .node label children =>
      (changeNamed? nameOf name (Tree.relabel? change rest) children).map (.node label)

def relabelPath? (change : α → α) : List String → List (Tree α) → Option (List (Tree α))
  | [], _ => none
  | name :: rest, trees => changeNamed? nameOf name (Tree.relabel? nameOf change rest) trees

end Change

end FlowClient
