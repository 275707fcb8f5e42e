import FlowClient.SuiteFilter
import FlowClient.Proofs.Tables

/-! What automatic addition makes of a selection, over all the lists of suites that a server
sends. A suite joins when it stands on a list and did not stand on the one before; that no
list came before is only seen from that one being empty. -/

namespace FlowClient.SuiteFilter

/-- The filter after a sequence of lists. -/
def takeLists (filter : SuiteFilter) (lists : List (List String)) : SuiteFilter :=
  lists.foldl setLoaded filter

/-- Whether suites that are new to a list join the selection. -/
def addsNew (filter : SuiteFilter) : Bool := filter.enabled && filter.autoAddNew

/-- That a suite stands on a list and did not stand on the one before, which was not empty. -/
def Appears (suite : String) (previous next : List String) : Prop :=
  previous ≠ [] ∧ suite ∈ next ∧ suite ∉ previous

theorem contains_setLoaded (filter : SuiteFilter) (names : List String) (suite : String) :
    (filter.setLoaded names).suites.contains suite = true ↔
      filter.suites.contains suite = true ∨
        filter.addsNew = true ∧ Appears suite filter.loaded names := by
  simp only [setLoaded]
  split
  · rename_i adds
    have adds : (filter.enabled = true ∧ filter.autoAddNew = true) ∧ filter.loaded ≠ [] := by
      simpa using adds
    simp [NameSet.contains_addAll, addsNew, Appears, adds, or_comm]
  · rename_i still
    have still : filter.enabled = true → filter.autoAddNew = true → filter.loaded = [] := by
      simpa using still
    have unchanged : ¬(filter.addsNew = true ∧ Appears suite filter.loaded names) := by
      rintro ⟨adds, known, -⟩
      rw [addsNew, Bool.and_eq_true] at adds
      exact known (still adds.1 adds.2)
    simp [unchanged]

/-- What a sequence of lists makes of a filter. -/
structure TakesLists (filter : SuiteFilter) (lists : List (List String)) (after : SuiteFilter) :
    Prop where
  /-- What was selected stays so, and the suites that appear from one list to the next join. -/
  selected : ∀ suite, after.suites.contains suite = true ↔
    filter.suites.contains suite = true ∨ filter.addsNew = true ∧
      ∃ pair ∈ (filter.loaded :: lists).zip lists, Appears suite pair.1 pair.2
  loaded : after.loaded = lists.getLastD filter.loaded
  enabled : after.enabled = filter.enabled
  autoAddNew : after.autoAddNew = filter.autoAddNew

/-- Whatever lists come, each of them is held against the one before it. -/
theorem takesLists (filter : SuiteFilter) (lists : List (List String)) :
    filter.TakesLists lists (filter.takeLists lists) := by
  induction lists generalizing filter with
  | nil => exact ⟨by simp [takeLists], rfl, rfl, rfl⟩
  | cons names rest induction =>
      have later := induction (filter.setLoaded names)
      have pairs : (filter.loaded :: names :: rest).zip (names :: rest) =
          (filter.loaded, names) :: (names :: rest).zip rest := rfl
      refine ⟨fun suite => ?_, ?_, later.enabled, later.autoAddNew⟩
      · rw [pairs, List.exists_mem_cons_iff, and_or_left, ← or_assoc, ← contains_setLoaded]
        exact later.selected suite
      · rw [List.getLastD_cons]
        exact later.loaded

/-- Suites are added to an empty selection. -/
def addsAll : SuiteFilter := { enabled := true, autoAddNew := true }

/-- A server that begins without any suite makes the first one that it lists look like one that
was always there. -/
theorem unselected_after_emptyList :
    "s1" ∈ ["s1"] ∧ "s1" ∉ ([] : List String) ∧
      (addsAll.takeLists [[], ["s1"]]).suites.contains "s1" = false := by
  decide

end FlowClient.SuiteFilter
