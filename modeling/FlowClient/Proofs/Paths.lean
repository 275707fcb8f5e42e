import FlowClient.Path
import FlowClient.Proofs.Text.Words
import Mathlib.Data.List.DropRight

/-! Paths and the names that they go through. A name that is not empty and has no slash in it can
be read off again, so different names make different paths. -/

namespace FlowClient.Path

/-- A text that a path can lead to. -/
def IsName (text : String) : Prop := text ≠ "" ∧ '/' ∉ text.toList

instance (text : String) : Decidable (IsName text) := inferInstanceAs (Decidable (_ ∧ _))

/-- The path through the given names, from the suite downwards. -/
def ofNames (names : List String) : String := "/" ++ Text.join "/" names

example : ofNames ["s1", "f1"] = "/s1/f1" := by decide

variable {names others : List String} {path name : String}

theorem isName_of_mem_segments (member : name ∈ segments path) : IsName name := by
  rcases List.mem_map.mp member with ⟨field, isField, rfl⟩
  obtain ⟨nonempty, unmarked⟩ := Text.mem_fields isField
  refine ⟨by simpa using nonempty, fun slash => ?_⟩
  simpa using unmarked '/' (by simpa using slash)

/-- Each name of a path stands behind a slash. -/
theorem toList_ofNames (nonempty : names ≠ []) :
    (ofNames names).toList = names.flatMap fun name => '/' :: name.toList := by
  induction names with
  | nil => exact absurd rfl nonempty
  | cons first rest induction =>
      cases rest with
      | nil => simp [ofNames, Text.join]
      | cons second rest =>
          have below := induction (List.cons_ne_nil second rest)
          simp only [ofNames, Text.join, String.toList_append, String.toList_ofList] at below
          rw [List.flatMap_cons, ← below]
          simp [ofNames, Text.join, List.intercalate_cons_cons]

theorem segments_ofNames (areNames : ∀ name ∈ names, IsName name) :
    segments (ofNames names) = names := by
  by_cases empty : names = []
  · subst empty
    decide
  -- the slash in front is one that stands behind nothing
  have pieces : (ofNames names).toList = ['/'].intercalate ([] :: names.map String.toList) := by
    simp [ofNames, Text.join, List.intercalate_cons_of_ne_nil, empty]
  have unmarked : ∀ piece ∈ [] :: names.map String.toList, '/' ∉ piece := by
    simpa using fun name member => (areNames name member).2
  have split : Text.pieces (· == '/') (ofNames names).toList = [] :: names.map String.toList := by
    rw [Text.pieces_eq_splitOnP, pieces]
    exact List.splitOn_intercalate '/' unmarked (List.cons_ne_nil _ _)
  have filled : (names.map String.toList).filter (!·.isEmpty) = names.map String.toList := by
    simpa [List.filter_eq_self] using fun name member => (areNames name member).1
  rw [segments, Text.fields, split]
  simp [filled]

/-- A path through a name does not end with a slash. -/
theorem rdropWhile_ofNames (areNames : ∀ name ∈ names, IsName name) (nonempty : names ≠ []) :
    (ofNames names).toList.rdropWhile (· == '/') = (ofNames names).toList := by
  obtain ⟨init, last, rfl⟩ := names.eq_nil_or_concat'.resolve_left nonempty
  obtain ⟨filled, unmarked⟩ := areNames last (by simp)
  obtain ⟨start, final, shape⟩ := last.toList.eq_nil_or_concat'.resolve_left (by simpa using filled)
  have other : ¬(final == '/') = true := by
    intro slash
    exact unmarked (by simp [shape, beq_iff_eq.mp slash])
  have ends : (ofNames (init ++ [last])).toList =
      (init.flatMap (fun name => '/' :: name.toList) ++ '/' :: start) ++ [final] := by
    simp [toList_ofNames nonempty, shape]
  rw [ends, List.rdropWhile_concat_neg (· == '/') _ _ other]

/-- A slash at the end of a parent is not doubled: only the path of the server has one. -/
theorem child_ofNames (areNames : ∀ name ∈ names, IsName name) (name : String) :
    child (ofNames names) name = ofNames (names ++ [name]) := by
  have longer : (ofNames (names ++ [name])).toList =
      names.flatMap (fun name => '/' :: name.toList) ++ '/' :: name.toList := by
    simp [toList_ofNames (show names ++ [name] ≠ [] by simp)]
  apply String.toList_injective
  rw [child, String.toList_ofList, longer]
  change (ofNames names).toList.rdropWhile (· == '/') ++ _ = _
  by_cases empty : names = []
  · subst empty
    simp [ofNames, Text.join]
  · rw [rdropWhile_ofNames areNames empty, toList_ofNames empty]

theorem ofNames_injective (areNames : ∀ name ∈ names, IsName name)
    (otherNames : ∀ name ∈ others, IsName name) (same : ofNames names = ofNames others) :
    names = others := by
  rw [← segments_ofNames areNames, same, segments_ofNames otherNames]

end FlowClient.Path
