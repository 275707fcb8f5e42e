import FlowClient.Proofs.Mirror.Scan
import FlowClient.Proofs.Paths
import FlowClient.Proofs.Tree.Map
import FlowClient.Proofs.Tree.Places

/-! Lookups in a mirror that was just filled. A path leads in the mirror to the image of what it
leads to in the definition, if the filter lets its suite through, and the image keeps the path
in its plain form. Where siblings differ by name, that path leads back to where it is kept. -/

namespace FlowClient

/-- Whether the suite that a path leads into is accepted. -/
def SuiteFilter.acceptsPath (filter : SuiteFilter) (path : String) : Bool :=
  (Path.segments path).head?.any filter.accepts

/-- A node of the mirror is the image of a node of the definition, and keeps the path through
the given names. -/
def Shadows (names : List String) (mirrored : MirrorNode) (node : Node) : Prop :=
  ∃ parent, mirrored = scanNode parent node ∧
    Path.child parent node.label.name = Path.ofNames names

variable {names segments : List String} {mirrored : MirrorNode} {node : Node}

/-! ## Images -/

mutual
theorem map_scanNode : ∀ (parent : String) (node : Node),
    (scanNode parent node).map MirrorFacts.toNodeFacts = node
  | parent, .node facts children => by
      rw [scanNode, Tree.map, mapForest_scanNodes]

theorem mapForest_scanNodes : ∀ (parent : String) (nodes : List Node),
    mapForest MirrorFacts.toNodeFacts (scanNodes parent nodes) = nodes
  | _, [] => by rw [scanNodes, mapForest]
  | parent, node :: rest => by
      rw [scanNodes, mapForest, map_scanNode, mapForest_scanNodes]
end

theorem Shadows.map (shadows : Shadows names mirrored node) :
    mirrored.map MirrorFacts.toNodeFacts = node := by
  obtain ⟨parent, rfl, -⟩ := shadows
  exact map_scanNode parent node

theorem Shadows.path (shadows : Shadows names mirrored node) :
    mirrored.label.path = Path.ofNames names := by
  obtain ⟨parent, rfl, path⟩ := shadows
  cases node with
  | node facts children => simpa [scanNode] using path

theorem exists_of_rel_some {α β : Type} {related : α → β → Prop} {value : α} {other? : Option β}
    (rel : Option.Rel related (some value) other?) :
    ∃ other, other? = some other ∧ related value other := by
  cases rel with
  | some holds => exact ⟨_, rfl, holds⟩

/-! ## The way down -/

theorem Shadows.descend? (areNames : ∀ name ∈ names ++ segments, Path.IsName name)
    (shadows : Shadows names mirrored node) :
    Option.Rel (Shadows (names ++ segments))
      (mirrored.descend? (fun facts : MirrorFacts => facts.name) segments)
      (node.descend? NodeFacts.name segments) := by
  induction segments generalizing names mirrored node with
  | nil => simpa [Tree.descend?] using shadows
  | cons segment segments induction =>
      obtain ⟨parent, rfl, path⟩ := shadows
      cases node with
      | node facts children =>
          simp only [Tree.label_node] at path
          rw [scanNode, Tree.descend?, Tree.descend?, Tree.children_node, Tree.children_node,
            path, findNamed?_scanNodes]
          cases found : findNamed? NodeFacts.name segment children with
          | none => exact .none
          | some child =>
              have named := name_of_findNamed? found
              have deeper : Shadows (names ++ [segment])
                  (scanNode (Path.ofNames names) child) child := by
                refine ⟨Path.ofNames names, rfl, ?_⟩
                rw [named]
                exact Path.child_ofNames (fun name member =>
                  areNames name (List.mem_append_left _ member)) segment
              have below := induction (by simpa using areNames) deeper
              simpa using below

/-- What names lead to in what a scan brings: nothing if their suite is rejected, and otherwise
the image of what they lead to in the definition. -/
theorem findPath?_scanned (definition : Definition) (filter : SuiteFilter)
    (areNames : ∀ name ∈ names, Path.IsName name) :
    Option.Rel (Shadows names)
      (findPath? (fun facts : MirrorFacts => facts.name) names (Mirror.scanned definition filter))
      (if names.head?.any filter.accepts = true then
          findPath? NodeFacts.name names definition.suites
        else none) := by
  cases names with
  | nil => exact .none
  | cons suite below =>
      rw [findPath?, findPath?, Mirror.scanned, findNamed?_scanNodes, List.head?_cons,
        Option.any_some]
      cases accepted : filter.accepts suite with
      | false =>
          rw [findNamed?_filter_rejected accepted]
          exact .none
      | true =>
          rw [findNamed?_filter accepted, if_pos rfl]
          cases found : findNamed? NodeFacts.name suite definition.suites with
          | none => exact .none
          | some node =>
              have server : Path.ofNames [] = "/" := by decide
              have root : Shadows [suite] (scanNode "/" node) node := by
                refine ⟨"/", rfl, ?_⟩
                rw [name_of_findNamed? found, ← server]
                exact Path.child_ofNames (by simp) suite
              exact root.descend? areNames

/-- What a mirror tells of a definition whose suites it has as far as a filter accepts them. -/
structure Mirror.Reflects (mirror : Mirror) (definition : Definition) (filter : SuiteFilter) :
    Prop where
  found_iff : ∀ path, (∃ mirrored, mirror.find? path = some mirrored) ↔
    (∃ node, definition.find? path = some node) ∧ filter.acceptsPath path = true
  /-- But for the paths that are kept, a node of the mirror is the node of the definition, with
  all that lies below it in the same order. -/
  image : ∀ path mirrored, mirror.find? path = some mirrored →
    definition.find? path = some (mirrored.map MirrorFacts.toNodeFacts) ∧
      mirrored.label.path = Path.ofNames (Path.segments path)
  /-- The path that a node keeps leads to the place of that node, where no other keeps it. -/
  returns : AllWellNamed NodeFacts.name Path.IsName definition.suites →
    ∀ place mirrored, placed? place mirror.suites = some mirrored →
      mirror.find? mirrored.label.path = some mirrored ∧
        ∀ elsewhere other, placed? elsewhere mirror.suites = some other →
          other.label.path = mirrored.label.path → elsewhere = place

mutual
theorem wellNamed_scanNode {isFit : String → Prop} : ∀ {parent : String} {node : Node},
    node.WellNamed NodeFacts.name isFit →
    (scanNode parent node).WellNamed (fun facts : MirrorFacts => facts.name) isFit
  | _, .node facts children, wellNamed => by
      rw [scanNode, Tree.WellNamed]
      exact ⟨wellNamed.1, allWellNamed_scanNodes wellNamed.2⟩

theorem allWellNamed_scanNodes {isFit : String → Prop} : ∀ {parent : String} {nodes : List Node},
    AllWellNamed NodeFacts.name isFit nodes →
    AllWellNamed (fun facts : MirrorFacts => facts.name) isFit (scanNodes parent nodes)
  | _, [], _ => by
      rw [scanNodes]
      trivial
  | parent, node :: rest, wellNamed => by
      rw [scanNodes, AllWellNamed, name_scanNode, names_scanNodes]
      exact ⟨wellNamed_scanNode wellNamed.1, wellNamed.2.1, allWellNamed_scanNodes wellNamed.2.2⟩
end

namespace Mirror

variable {definition : Definition} {filter : SuiteFilter} {place : List Nat}

theorem shadows_find? (mirror : Mirror) (definition : Definition) (filter : SuiteFilter)
    (path : String) :
    Option.Rel (Shadows (Path.segments path))
      ((mirror.beginScan definition filter).1.endScan.find? path)
      (if filter.acceptsPath path = true then definition.find? path else none) :=
  findPath?_scanned definition filter fun _ => Path.isName_of_mem_segments

/-- What a path finds in the mirror is the image of what it finds in the definition. -/
theorem shadows_of_find? {mirror : Mirror} {path : String}
    (found : (mirror.beginScan definition filter).1.endScan.find? path = some mirrored) :
    filter.acceptsPath path = true ∧
      ∃ node, definition.find? path = some node ∧ Shadows (Path.segments path) mirrored node := by
  have shadows := mirror.shadows_find? definition filter path
  rw [found] at shadows
  obtain ⟨node, isNode, shadows⟩ := exists_of_rel_some shadows
  obtain ⟨accepted, isNode⟩ := Option.ite_none_right_eq_some.mp isNode
  exact ⟨accepted, node, isNode, shadows⟩

theorem exists_find?_of_accepted {mirror : Mirror} {path : String}
    (found : definition.find? path = some node) (accepted : filter.acceptsPath path = true) :
    ∃ mirrored, (mirror.beginScan definition filter).1.endScan.find? path = some mirrored := by
  have shadows := mirror.shadows_find? definition filter path
  rw [if_pos accepted, found] at shadows
  generalize (mirror.beginScan definition filter).1.endScan.find? path = mirrored? at shadows
  cases shadows with
  | some shadows => exact ⟨_, rfl⟩

theorem allWellNamed_scanned (wellNamed : AllWellNamed NodeFacts.name Path.IsName definition.suites)
    (filter : SuiteFilter) :
    AllWellNamed (fun facts : MirrorFacts => facts.name) Path.IsName (scanned definition filter) :=
  allWellNamed_scanNodes (wellNamed.filter _)

/-- The path that is kept at a place goes through the names on the way there. -/
theorem path_of_lies (wellNamed : AllWellNamed NodeFacts.name Path.IsName definition.suites)
    (lies : Lies (fun facts : MirrorFacts => facts.name) place names mirrored
      (scanned definition filter)) :
    mirrored.label.path = Path.ofNames names := by
  have all := allWellNamed_scanned wellNamed filter
  have shadows := findPath?_scanned definition filter (lies.fit all)
  rw [lies.findPath? all] at shadows
  obtain ⟨node, -, shadows⟩ := exists_of_rel_some shadows
  exact shadows.path

/-- A scan fills a mirror, whatever it held before, with what a path finds in the definition. -/
theorem reflects_scan (mirror : Mirror) (definition : Definition) (filter : SuiteFilter) :
    (mirror.beginScan definition filter).1.endScan.Reflects definition filter where
  found_iff path := by
    constructor
    · rintro ⟨mirrored, found⟩
      obtain ⟨accepted, node, isNode, -⟩ := shadows_of_find? found
      exact ⟨⟨node, isNode⟩, accepted⟩
    · rintro ⟨⟨node, isNode⟩, accepted⟩
      exact exists_find?_of_accepted isNode accepted
  image path mirrored found := by
    obtain ⟨-, node, isNode, shadows⟩ := shadows_of_find? found
    rw [shadows.map]
    exact ⟨isNode, shadows.path⟩
  returns wellNamed place mirrored found := by
    have all := allWellNamed_scanned wellNamed filter
    obtain ⟨names, lies⟩ := exists_lies (fun facts : MirrorFacts => facts.name) found
    have path := path_of_lies wellNamed lies
    refine ⟨?_, fun elsewhere other foundOther same => ?_⟩
    · rw [path, find?, Path.segments_ofNames (lies.fit all)]
      exact lies.findPath? all
    · obtain ⟨otherNames, otherLies⟩ :=
        exists_lies (fun facts : MirrorFacts => facts.name) foundOther
      rw [path, path_of_lies wellNamed otherLies] at same
      have sameNames := Path.ofNames_injective (otherLies.fit all) (lies.fit all) same
      exact lies.unique otherLies sameNames all

/-- Two suites with a task of one name each. -/
def twoTasks : Definition where
  suites := ["s1", "s2"].map fun suite =>
    .node { name := suite } [.node { name := "t", kind := .task } []]

theorem reflects_scan_of_twoTasks :
    AllWellNamed NodeFacts.name Path.IsName twoTasks.suites ∧
      let mirror := (Mirror.beginScan {} twoTasks (.selecting ["s2"])).1.endScan
      ∃ task, placed? [0, 0] mirror.suites = some task ∧ task.label.path = "/s2/t" ∧
        mirror.find? task.label.path = some task := by
  have wellNamed : AllWellNamed NodeFacts.name Path.IsName twoTasks.suites := by
    simp [twoTasks, AllWellNamed, Tree.WellNamed, Path.IsName]
  refine ⟨wellNamed, _, rfl, by decide, ?_⟩
  exact ((reflects_scan {} twoTasks (.selecting ["s2"])).returns wellNamed [0, 0] _ rfl).1

end Mirror

end FlowClient
