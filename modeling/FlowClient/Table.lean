/-! Tables and sets with text keys, kept in key order. The order is part of the
type, so two tables with the same entries are equal and listing one needs no
sorting. Text is ordered by code point, which is also the order of its UTF-8
bytes. -/

namespace FlowClient

/-! ## Ordered entries -/

namespace Entries

def insert (name : String) (value : α) : List (String × α) → List (String × α)
  | [] => [(name, value)]
  | (head, old) :: rest =>
      if name < head then (name, value) :: (head, old) :: rest
      else if name = head then (name, value) :: rest
      else (head, old) :: insert name value rest

def get? (name : String) : List (String × α) → Option α
  | [] => none
  | (head, value) :: rest => if head = name then some value else get? name rest

theorem mem_insert {name : String} {value : α} {entry : String × α} :
    ∀ {entries : List (String × α)}, entry ∈ insert name value entries →
      entry = (name, value) ∨ entry ∈ entries
  | [], member => by simpa [insert] using member
  | (head, old) :: rest, member => by
      rw [insert] at member
      split at member
      · simpa using member
      · split at member
        · rcases List.mem_cons.mp member with same | later
          · exact .inl same
          · exact .inr (List.mem_cons_of_mem _ later)
        · rcases List.mem_cons.mp member with same | later
          · exact .inr (same ▸ List.mem_cons_self)
          · rcases mem_insert later with same | earlier
            · exact .inl same
            · exact .inr (List.mem_cons_of_mem _ earlier)

theorem insert_ordered {name : String} {value : α} :
    ∀ {entries : List (String × α)},
      entries.Pairwise (fun left right => left.1 < right.1) →
      (insert name value entries).Pairwise (fun left right => left.1 < right.1)
  | [], _ => by simp [insert]
  | (head, old) :: rest, ordered => by
      have parts := List.pairwise_cons.mp ordered
      rw [insert]
      split
      · rename_i before
        refine List.pairwise_cons.mpr ⟨fun entry member => ?_, ordered⟩
        rcases List.mem_cons.mp member with same | later
        · exact same ▸ before
        · exact String.lt_trans before (parts.1 entry later)
      · split
        · rename_i same
          subst same
          exact List.pairwise_cons.mpr ⟨parts.1, parts.2⟩
        · rename_i notBefore different
          refine List.pairwise_cons.mpr ⟨fun entry member => ?_, insert_ordered parts.2⟩
          rcases mem_insert member with same | later
          · subst same
            rcases Decidable.em (head < name) with after | notAfter
            · exact after
            · exact absurd (String.le_antisymm (String.not_lt.mp notAfter)
                (String.not_lt.mp notBefore)) different
          · exact parts.1 entry later

@[simp] theorem get?_insert_same (name : String) (value : α) :
    ∀ entries : List (String × α), get? name (insert name value entries) = some value
  | [] => by simp [insert, get?]
  | (head, old) :: rest => by
      rw [insert]
      split
      · simp [get?]
      · split
        · simp [get?]
        · rename_i different
          simp [get?, Ne.symm different, get?_insert_same name value rest]

theorem get?_insert_other {name other : String} (value : α) (different : other ≠ name) :
    ∀ entries : List (String × α), get? other (insert name value entries) = get? other entries
  | [] => by simp [insert, get?, Ne.symm different]
  | (head, old) :: rest => by
      rw [insert]
      split
      · simp [get?, Ne.symm different]
      · split
        · rename_i same
          subst same
          simp [get?, Ne.symm different]
        · simp [get?, get?_insert_other value different rest]

end Entries

/-! ## Tables -/

/-- A finite table from names to values, listed in the order of its names. -/
structure Table (α : Type u) where
  entries : List (String × α)
  ordered : entries.Pairwise (fun left right => left.1 < right.1)

namespace Table

@[ext] theorem ext {left right : Table α} (same : left.entries = right.entries) :
    left = right := by
  cases left
  cases right
  cases same
  rfl

instance [DecidableEq α] : DecidableEq (Table α) := fun left right =>
  if same : left.entries = right.entries then isTrue (ext same)
  else isFalse fun equal => same (congrArg entries equal)

def empty : Table α := ⟨[], .nil⟩

instance : Inhabited (Table α) := ⟨empty⟩

def get? (table : Table α) (name : String) : Option α := Entries.get? name table.entries

def contains (table : Table α) (name : String) : Bool := (table.get? name).isSome

def insert (table : Table α) (name : String) (value : α) : Table α :=
  ⟨Entries.insert name value table.entries, Entries.insert_ordered table.ordered⟩

def erase (table : Table α) (name : String) : Table α :=
  ⟨table.entries.filter (·.1 != name), table.ordered.filter _⟩

def size (table : Table α) : Nat := table.entries.length

def isEmpty (table : Table α) : Bool := table.entries.isEmpty

def keys (table : Table α) : List String := table.entries.map (·.1)

/-- Insert a list of entries one after the other, so the last of a name counts. -/
def insertAll (table : Table α) (additions : List (String × α)) : Table α :=
  additions.foldl (fun table entry => table.insert entry.1 entry.2) table

def ofList (entries : List (String × α)) : Table α := empty.insertAll entries

def mapValues (transform : String → α → β) (table : Table α) : Table β :=
  ⟨table.entries.map (fun entry => (entry.1, transform entry.1 entry.2)),
    List.pairwise_map.mpr (table.ordered.imp (fun before => before))⟩

@[simp] theorem get?_insert_same (table : Table α) (name : String) (value : α) :
    (table.insert name value).get? name = some value :=
  Entries.get?_insert_same name value table.entries

theorem get?_insert_other (table : Table α) {name other : String} (value : α)
    (different : other ≠ name) : (table.insert name value).get? other = table.get? other :=
  Entries.get?_insert_other value different table.entries

example : (ofList [("b", 1), ("a", 2), ("b", 3)]).entries = [("a", 2), ("b", 3)] := by
  decide

end Table

/-! ## Sets of names -/

/-- A finite set of names, listed in order. -/
abbrev NameSet := Table Unit

namespace NameSet

def ofNames (names : List String) : NameSet := Table.ofList (names.map (·, ()))

def addAll (set : NameSet) (names : List String) : NameSet :=
  set.insertAll (names.map (·, ()))

def names (set : NameSet) : List String := set.keys

example : (ofNames ["b", "a", "b"]).names = ["a", "b"] := by decide

end NameSet

end FlowClient
