import FlowClient.Mirror
import FlowClient.Proofs.Tree.Change

/-! A scan keeps names. So the node that a path leads to in the mirror is the image of the
node that it leads to in the definition, and the update of the one is the image of the
update of the other. -/

namespace FlowClient

/-! ## Paths -/

theorem Text.fields_eq_nil {isMark : Char → Bool} {text : List Char} :
    Text.fields isMark text = [] ↔ text.all isMark = true := by
  induction text with
  | nil => simp [Text.fields, Text.pieces]
  | cons char rest induction =>
      rw [Text.fields] at *
      rw [Text.pieces]
      cases marked : isMark char with
      | true => simpa [marked] using induction
      | false =>
          split
          · rename_i contradiction
            simp at contradiction
          · split <;> simp [marked]

theorem Path.isServer_iff {path : String} :
    Path.isServer path = true ↔ Path.segments path = [] := by
  simp [Path.isServer, Path.segments, Text.fields_eq_nil]

/-! ## Images -/

@[simp] theorem name_scanNode (parent : String) (node : Node) :
    (scanNode parent node).label.name = node.label.name := by
  cases node with
  | node facts children => simp [scanNode]

theorem names_scanNodes (parent : String) (nodes : List Node) :
    (scanNodes parent nodes).map (·.label.name) = nodes.map (·.label.name) := by
  induction nodes with
  | nil => rfl
  | cons node rest induction => simp [scanNodes, induction]

theorem findNamed?_scanNodes (name parent : String) (nodes : List Node) :
    findNamed? (fun facts : MirrorFacts => facts.name) name (scanNodes parent nodes) =
      (findNamed? NodeFacts.name name nodes).map (scanNode parent) := by
  induction nodes with
  | nil => simp [scanNodes, findNamed?]
  | cons node rest induction =>
      rw [scanNodes, findNamed?, findNamed?, name_scanNode, induction]
      split <;> rfl

theorem changeNamed?_scanNodes {parent : String} {mirrored : MirrorNode → Option MirrorNode}
    {change : Node → Option Node}
    (image : ∀ node, mirrored (scanNode parent node) = (change node).map (scanNode parent))
    (name : String) (nodes : List Node) :
    changeNamed? (fun facts : MirrorFacts => facts.name) name mirrored (scanNodes parent nodes) =
      (changeNamed? NodeFacts.name name change nodes).map (scanNodes parent) := by
  induction nodes with
  | nil => simp [scanNodes, changeNamed?]
  | cons node rest induction =>
      rw [scanNodes, changeNamed?, changeNamed?, name_scanNode]
      split
      · rw [image]
        cases change node <;> simp [scanNodes]
      · rw [induction]
        cases changeNamed? NodeFacts.name name change rest <;> simp [scanNodes]

/-! ## Updates -/

namespace NodeUpdate

variable (update : NodeUpdate)

/-- What an update does to a node of the mirror. -/
def applyToMirrored (facts : MirrorFacts) : MirrorFacts :=
  { facts with toNodeFacts := update.applyTo facts.toNodeFacts }

theorem relabel?_scanNode (segments : List String) (parent : String) (node : Node) :
    Tree.relabel? (fun facts : MirrorFacts => facts.name) update.applyToMirrored segments
        (scanNode parent node) =
      (Tree.relabel? NodeFacts.name update.applyTo segments node).map (scanNode parent) := by
  induction segments generalizing parent node with
  | nil =>
      cases node with
      | node facts children => simp [Tree.relabel?, scanNode, applyToMirrored]
  | cons segment segments induction =>
      cases node with
      | node facts children =>
          have image := changeNamed?_scanNodes (induction (Path.child parent facts.name))
          rw [scanNode, Tree.relabel?, Tree.relabel?, image segment children]
          cases changeNamed? NodeFacts.name segment
            (Tree.relabel? NodeFacts.name update.applyTo segments) children <;> simp [scanNode]

theorem relabelPath?_scanNodes (segments : List String) (parent : String) (nodes : List Node) :
    relabelPath? (fun facts : MirrorFacts => facts.name) update.applyToMirrored segments
        (scanNodes parent nodes) =
      (relabelPath? NodeFacts.name update.applyTo segments nodes).map (scanNodes parent) := by
  cases segments with
  | nil => rfl
  | cons segment segments =>
      exact changeNamed?_scanNodes (update.relabel?_scanNode segments parent) segment nodes

end NodeUpdate

/-! ## Filtered definitions -/

namespace Mirror

variable {definition : Definition} {filter : SuiteFilter} {update : NodeUpdate}
  {suite : String} {below : List String}

theorem name_relabeled (segments : List String) (node later : Node)
    (changed : Tree.relabel? NodeFacts.name update.applyTo segments node = some later) :
    later.label.name = node.label.name :=
  name_relabel? update.applyTo_name segments node later changed

theorem scanned_updated_server (server : update.isServer = true) :
    scanned (definition.updated update) filter = scanned definition filter := by
  simp [scanned, Definition.updated, Definition.updated?, server]

theorem suites_updated (segments : Path.segments update.path = suite :: below) :
    (definition.updated update).suites =
      (changeNamed? NodeFacts.name suite (Tree.relabel? NodeFacts.name update.applyTo below)
        definition.suites).getD definition.suites := by
  have node : update.isServer = false := by
    rw [NodeUpdate.isServer, ← Bool.not_eq_true, Path.isServer_iff, segments]
    simp
  simp only [Definition.updated, Definition.updated?, node, Definition.change?, segments, relabelPath?]
  cases changeNamed? NodeFacts.name suite (Tree.relabel? NodeFacts.name update.applyTo below)
    definition.suites <;> simp

/-- An update below a suite that a scan does not bring makes no difference to the scan. -/
theorem scanned_updated_absent (segments : Path.segments update.path = suite :: below)
    (absent : findNamed? (fun facts : MirrorFacts => facts.name) suite
      (scanned definition filter) = none) :
    scanned (definition.updated update) filter = scanned definition filter := by
  rw [scanned, findNamed?_scanNodes, Option.map_eq_none_iff] at absent
  rw [scanned, scanned, suites_updated segments]
  cases found : changeNamed? NodeFacts.name suite
    (Tree.relabel? NodeFacts.name update.applyTo below) definition.suites with
  | none => rfl
  | some suites =>
      cases accepted : filter.accepts suite with
      | true =>
          rw [findNamed?_filter accepted] at absent
          rw [changeNamed?_eq_none absent] at found
          cases found
      | false =>
          have same := filter_changeNamed? accepted (name_relabeled below) found
          exact congrArg (scanNodes "/") same

/-- The update of what a scan brought is what a scan of the updated definition brings. -/
theorem scanned_updated (segments : Path.segments update.path = suite :: below)
    {suites : List MirrorNode}
    (updated : relabelPath? (fun facts : MirrorFacts => facts.name) update.applyToMirrored
      (suite :: below) (scanned definition filter) = some suites) :
    suites = scanned (definition.updated update) filter := by
  rw [scanned, NodeUpdate.relabelPath?_scanNodes, relabelPath?] at updated
  rw [scanned, suites_updated segments]
  cases accepted : filter.accepts suite with
  | true =>
      rw [changeNamed?_filter accepted (name_relabeled below)] at updated
      rcases Option.map_eq_some_iff.mp updated with ⟨filtered, found, rfl⟩
      rcases Option.map_eq_some_iff.mp found with ⟨changed, foundAll, rfl⟩
      rw [foundAll]
      rfl
  | false =>
      rw [changeNamed?_eq_none (findNamed?_filter_rejected accepted definition.suites)] at updated
      cases updated

/-! ## Both ends of an update -/

variable {mirror after : Mirror} {path : String} {begun change : NodeChange}

theorem beginUpdate_ok (filled : mirror.isEmpty = false)
    (ok : mirror.beginUpdate path {} = .ok begun) :
    ∃ suite below, Path.segments path = suite :: below ∧
      (begun.ignore = true →
        findNamed? (fun facts : MirrorFacts => facts.name) suite mirror.suites = none) := by
  rw [beginUpdate, if_neg (by simp [filled])] at ok
  split at ok
  · cases ok
  · rename_i suite below segments
    refine ⟨suite, below, segments, ?_⟩
    intro ignored
    split at ok
    · rename_i absent
      exact Option.isNone_iff_eq_none.mp absent
    · split at ok
      · cases ok
      · cases ok
        cases ignored

theorem endUpdate_ok (used : begun.ignore = false)
    (ok : mirror.endUpdate update begun = .ok (after, change)) :
    relabelPath? (fun facts : MirrorFacts => facts.name) update.applyToMirrored
      (Path.segments update.path) mirror.suites = some after.suites := by
  rw [endUpdate, if_neg (by simp [used])] at ok
  simp only at ok
  split at ok
  · cases ok
  · rename_i suites relabeled
    cases ok
    exact relabeled

/-- The update of a node takes no suite away and adds none. -/
theorem suiteCount_endUpdate (used : begun.ignore = false)
    (ok : mirror.endUpdate update begun = .ok (after, change)) :
    after.suiteCount = mirror.suiteCount := by
  have relabeled := endUpdate_ok used ok
  cases segments : Path.segments update.path with
  | nil =>
      rw [segments] at relabeled
      cases relabeled
  | cons suite below =>
      rw [segments] at relabeled
      exact length_changeNamed? relabeled

/-- An update that was announced, and is not passed over, can be made. -/
theorem endUpdate_of_beginUpdate (ok : mirror.beginUpdate update.path {} = .ok begun)
    (used : begun.ignore = false) : ∃ ended, mirror.endUpdate update begun = .ok ended := by
  have reached : ∃ node, mirror.find? update.path = some node := by
    rw [beginUpdate] at ok
    split at ok
    · cases ok
      cases used
    split at ok
    · cases ok
    split at ok
    · cases ok
      cases used
    split at ok
    · cases ok
    · rename_i node found
      exact ⟨node, found⟩
  rcases reached with ⟨node, found⟩
  have relabeled := relabelPath?_isSome update.applyToMirrored found
  rcases Option.isSome_iff_exists.mp relabeled with ⟨suites, changed⟩
  unfold NodeUpdate.applyToMirrored at changed
  simp [endUpdate, used, changed]

end Mirror

end FlowClient
