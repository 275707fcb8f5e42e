import FlowClient.Proofs.Mirror.Scan
import FlowClient.Proofs.Tree.Lookup

/-! Updates of a definition. An update reaches the server or one node, if there is such a node.
Whatever else a path leads to is found as before, and nothing is moved, added, taken away or
given another name. -/

namespace FlowClient

/-- What an update makes of the node that it addresses. -/
structure NodeUpdate.Renews (update : NodeUpdate) (before after : Node) : Prop where
  state : after.label.state = update.state.getD before.label.state
  suspended : after.label.suspended = update.suspended.getD before.label.suspended
  attributes : after.label.attributes = update.attributes.getD before.label.attributes
  name : after.label.name = before.label.name
  kind : after.label.kind = before.label.kind
  children : after.children = before.children

namespace Definition

/-- What becomes of a definition that is given an update, and whether the update was made. -/
structure Takes (before : Definition) (update : NodeUpdate) (after : Definition) (made : Bool) :
    Prop where
  /-- An update of the server is always made, and leaves the tree alone. -/
  ofServer : update.isServer = true → made = true ∧ after.suites = before.suites
  /-- An update of a node leaves the server's own part alone. -/
  server : update.isServer = false → after.server = before.server
  made_iff : update.isServer = false → (made = true ↔ ∃ node, before.find? update.path = some node)
  unmade : made = false → after = before
  renewed : ∀ node path, update.isServer = false → before.find? update.path = some node →
    Path.segments path = Path.segments update.path →
    ∃ later, after.find? path = some later ∧ update.Renews node later
  /-- Any other path leads to a node if it did before, and that node looks as it did, with
  children of the same names. -/
  elsewhere : ∀ path, Path.segments path ≠ Path.segments update.path →
    Option.Rel (Tree.Resembles NodeFacts.name) (before.find? path) (after.find? path)
  suiteNames : after.suiteNames = before.suiteNames

variable {definition changed : Definition} {update : NodeUpdate} {path : String}
  {change : NodeFacts → NodeFacts}

theorem relabelPath?_of_change? (made : definition.change? path change = some changed) :
    changed.server = definition.server ∧
      relabelPath? NodeFacts.name change (Path.segments path) definition.suites =
        some changed.suites := by
  rcases Option.map_eq_some_iff.mp made with ⟨suites, relabeled, rfl⟩
  exact ⟨rfl, relabeled⟩

theorem resembles_of_suites (same : changed.suites = definition.suites) (path : String) :
    Option.Rel (Tree.Resembles NodeFacts.name) (definition.find? path) (changed.find? path) := by
  rw [find?, find?, same]
  cases findPath? NodeFacts.name (Path.segments path) definition.suites with
  | none => exact .none
  | some node => exact .some (Tree.Resembles.rfl node)

theorem takes_server (server : update.isServer = true) :
    definition.Takes update
      { definition with server := update.applyToServer definition.server } true where
  ofServer _ := ⟨rfl, rfl⟩
  server node := by simp [server] at node
  made_iff node := by simp [server] at node
  unmade := nofun
  renewed _ _ node := by simp [server] at node
  elsewhere path _ := resembles_of_suites rfl path
  suiteNames := rfl

theorem takes_made (node : update.isServer = false)
    (made : definition.change? update.path update.applyTo = some changed) :
    definition.Takes update changed true := by
  obtain ⟨server, relabeled⟩ := relabelPath?_of_change? made
  obtain ⟨found, before, after⟩ := findPath?_relabelPath? update.applyTo_name relabeled
  refine ⟨?_, fun _ => server, fun _ => ?_, nofun, ?_, ?_,
    names_relabelPath? update.applyTo_name relabeled⟩
  · intro isServer
    simp [node] at isServer
  · simp only [true_iff]
    exact ⟨found, before⟩
  · intro named path _ isNamed same
    obtain rfl : found = named := Option.some.inj (before.symm.trans isNamed)
    refine ⟨.node (update.applyTo found.label) found.children, ?_, rfl, rfl, rfl, rfl, rfl, rfl⟩
    rw [find?, same]
    exact after
  · intro path different
    exact findPath?_relabelPath?_other update.applyTo_name different relabeled

theorem takes_unmade (node : update.isServer = false)
    (unmade : definition.change? update.path update.applyTo = none) :
    definition.Takes update definition false := by
  have missing : definition.find? update.path = none := by
    cases found : definition.find? update.path with
    | none => rfl
    | some reached =>
        have changes := relabelPath?_isSome update.applyTo found
        rw [Option.map_eq_none_iff.mp unmade] at changes
        cases changes
  refine ⟨?_, fun _ => rfl, fun _ => ?_, fun _ => rfl, ?_, ?_, rfl⟩
  · intro isServer
    simp [node] at isServer
  · simp [missing]
  · intro named path _ isNamed
    rw [missing] at isNamed
    cases isNamed
  · exact fun path _ => resembles_of_suites rfl path

/-- An update reaches the server or one node only, and it is reported whether there is one. -/
theorem takes_updated (definition : Definition) (update : NodeUpdate) :
    definition.Takes update (definition.updated update) (definition.updated? update).isSome := by
  rw [updated, updated?]
  cases server : update.isServer with
  | true => exact takes_server server
  | false =>
      cases made : definition.change? update.path update.applyTo with
      | some changed => simpa [made] using takes_made server made
      | none => simpa [made] using takes_unmade server made

end Definition

end FlowClient
