import FlowClient.Table
import Mathlib.Data.List.Sort

/-! Tables as what they give for each name. A table is determined by that; what is inserted
counts before what was there, and inserting the entries of a table in their order gives
the table back. -/

namespace FlowClient

/-! ## Lookups -/

theorem Entries.get?_eq_none {entries : List (String × α)} {name : String}
    (absent : ∀ entry ∈ entries, entry.1 ≠ name) : Entries.get? name entries = none := by
  induction entries with
  | nil => rfl
  | cons entry rest induction =>
      rw [Entries.get?, if_neg (absent entry List.mem_cons_self)]
      exact induction fun other member => absent other (List.mem_cons_of_mem entry member)

/-- Names are strictly in order, so the first of them does not come again. -/
theorem Entries.get?_tail {entry : String × α} {rest : List (String × α)}
    (ordered : (entry :: rest).Pairwise fun left right => left.1 < right.1) :
    Entries.get? entry.1 rest = none := by
  refine Entries.get?_eq_none fun other member equal => ?_
  have before := List.rel_of_pairwise_cons ordered member
  rw [equal] at before
  exact String.lt_irrefl entry.1 before

/-- What is added counts, and what is not added stays. -/
theorem Table.get?_insertAll (table additions : Table α) (name : String) :
    (table.insertAll additions.entries).get? name = (additions.get? name).or (table.get? name) := by
  rcases additions with ⟨entries, ordered⟩
  change (table.insertAll entries).get? name = (Entries.get? name entries).or (table.get? name)
  induction entries generalizing table with
  | nil => rfl
  | cons entry rest induction =>
      change ((table.insert entry.1 entry.2).insertAll rest).get? name = _
      rw [induction _ ordered.of_cons, Entries.get?]
      split
      · rename_i same
        rw [← same, Entries.get?_tail ordered, get?_insert_same]
        rfl
      · rename_i different
        rw [get?_insert_other table entry.2 (Ne.symm different)]

theorem Entries.mem_iff_get? {entries : List (String × α)}
    (ordered : entries.Pairwise fun left right => left.1 < right.1) (name : String) (value : α) :
    (name, value) ∈ entries ↔ Entries.get? name entries = some value := by
  induction entries with
  | nil => simp [Entries.get?]
  | cons entry rest induction =>
      have absent := Entries.get?_tail ordered
      rcases entry with ⟨head, first⟩
      rw [List.mem_cons, induction ordered.of_cons, Entries.get?]
      split
      · rename_i same
        subst same
        simp [absent, eq_comm]
      · rename_i different
        simp [Ne.symm different]

theorem Table.mem_keys_iff (table : Table α) (name : String) :
    name ∈ table.keys ↔ table.contains name = true := by
  simp [keys, contains, get?, Entries.mem_iff_get? table.ordered, Option.isSome_iff_exists]

/-- Tables that give the same for each name are the same. -/
theorem Table.ext_get? {left right : Table α} (same : ∀ name, left.get? name = right.get? name) :
    left = right := by
  have irreflexive : Std.Irrefl fun one other : String × α => one.1 < other.1 :=
    ⟨fun one => String.lt_irrefl one.1⟩
  have antisymmetric : Std.Antisymm fun one other : String × α => one.1 < other.1 :=
    ⟨fun _ _ before after => absurd after (String.lt_asymm before)⟩
  apply Table.ext
  refine List.Pairwise.eq_of_mem_iff left.ordered right.ordered fun ⟨name, value⟩ => ?_
  rw [Entries.mem_iff_get? left.ordered, Entries.mem_iff_get? right.ordered]
  exact Eq.congr_left (same name)

/-! ## Insertions in order -/

namespace Entries

/-- An entry whose name comes after all others goes to the end. -/
theorem insert_of_greatest {name : String} {value : α} {entries : List (String × α)}
    (greatest : ∀ entry ∈ entries, entry.1 < name) :
    insert name value entries = entries ++ [(name, value)] := by
  induction entries with
  | nil => rfl
  | cons entry rest induction =>
      obtain ⟨before, others⟩ := List.forall_mem_cons.mp greatest
      rw [insert, if_neg (String.lt_asymm before), if_neg (Ne.symm (String.ne_of_lt before)),
        induction others]
      rfl

end Entries

theorem Table.insertAll_entries {table : Table α} {additions : List (String × α)}
    (ordered : (table.entries ++ additions).Pairwise fun left right => left.1 < right.1) :
    (table.insertAll additions).entries = table.entries ++ additions := by
  induction additions generalizing table with
  | nil => simp [insertAll]
  | cons entry rest induction =>
      have last : (table.insert entry.1 entry.2).entries = table.entries ++ [entry] :=
        Entries.insert_of_greatest fun other member =>
          (List.pairwise_append.mp ordered).2.2 other member entry List.mem_cons_self
      have longer : table.entries ++ entry :: rest = (table.entries ++ [entry]) ++ rest := by simp
      rw [longer, ← last] at ordered ⊢
      exact induction ordered

theorem Table.ofList_entries (table : Table α) : Table.ofList table.entries = table :=
  Table.ext (Table.insertAll_entries (by simpa [Table.empty] using table.ordered))

/-! ## Sets of names -/

/-- A set to which names are added holds these and what it held before. -/
theorem NameSet.contains_addAll (set : NameSet) (names : List String) (name : String) :
    (set.addAll names).contains name = true ↔ name ∈ names ∨ set.contains name = true := by
  induction names generalizing set with
  | nil => simp [addAll, Table.insertAll]
  | cons head rest induction =>
      have added : set.addAll (head :: rest) = NameSet.addAll (set.insert head ()) rest := rfl
      rw [added, induction, List.mem_cons]
      by_cases same : name = head
      · subst same
        simp [Table.contains]
      · simp [Table.contains, set.get?_insert_other () same, same]

end FlowClient
