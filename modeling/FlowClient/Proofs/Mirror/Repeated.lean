import FlowClient.Proofs.Mirror.Outline
import FlowClient.Proofs.Tables
import FlowClient.Proofs.Tree.Repeated

/-! Changes that are delivered more than once. What an update says it sets, and what it does
not mention it leaves, so that it overwrites what it did earlier. A list of updates that
is folded in a second time therefore makes no difference, whether to the server, to the
nodes of a definition or to a mirror; and the mirror of a changed definition is the
changed mirror. -/

namespace FlowClient

/-! ## What one update overwrites -/

theorem Table.overwrites_insertAll :
    Overwrites fun (table additions : Table α) => table.insertAll additions.entries where
  again := fun table additions => Table.ext_get? fun name => by
    simp only [Table.get?_insertAll]
    cases additions.get? name <;> rfl
  since := fun table additions others => Table.ext_get? fun name => by
    simp only [Table.get?_insertAll]
    cases additions.get? name <;> rfl

namespace NodeUpdate

theorem overwrites_applyTo : Overwrites fun facts update => applyTo update facts where
  again := fun facts update => by simp only [applyTo, overwrites_getD.again]
  since := fun facts update other => by simp only [applyTo, overwrites_getD.since]

theorem overwrites_applyToMirrored :
    Overwrites fun facts update => applyToMirrored update facts where
  again := fun facts update => by
    simp only [applyToMirrored, overwrites_applyTo.again facts.toNodeFacts update]
  since := fun facts update other => by
    simp only [applyToMirrored, overwrites_applyTo.since facts.toNodeFacts update other]

/-- The variables of the server after an update. -/
def variablesAfter (update : NodeUpdate) (known : Table String) : Table String :=
  update.attributes.elim known (known.insertAll ·.entries)

theorem overwrites_variablesAfter :
    Overwrites fun known update => variablesAfter update known where
  again := fun known update => by
    unfold variablesAfter
    cases update.attributes with
    | none => rfl
    | some additions => exact Table.overwrites_insertAll.again known additions
  since := fun known update other => by
    unfold variablesAfter
    cases update.attributes with
    | none => rfl
    | some additions =>
        cases other.attributes with
        | none => exact Table.overwrites_insertAll.again known additions
        | some others => exact Table.overwrites_insertAll.since known additions others

theorem applyToServer_eq (update : NodeUpdate) (server : ServerFacts) :
    update.applyToServer server = { server with
      state := update.serverState.getD server.state
      suspended := update.suspended.getD server.suspended
      userVariables := update.variablesAfter server.userVariables } := by
  unfold applyToServer variablesAfter
  cases update.attributes <;> rfl

theorem overwrites_applyToServer :
    Overwrites fun server update => applyToServer update server where
  again := fun server update => by
    simp only [applyToServer_eq, overwrites_getD.again, overwrites_variablesAfter.again]
  since := fun server update other => by
    simp only [applyToServer_eq, overwrites_getD.since, overwrites_variablesAfter.since]

end NodeUpdate

/-! ## Definitions -/

namespace Definition

/-- The update of a node leaves the server, and the update of the server leaves the nodes. -/
theorem updated_eq (definition : Definition) (update : NodeUpdate) :
    definition.updated update =
      { server := if update.isServer then update.applyToServer definition.server
          else definition.server
        suites := relabelPath NodeFacts.name update.applyTo (Path.segments update.path)
          definition.suites } := by
  rw [updated, updated?]
  cases server : update.isServer with
  | true =>
      rw [Path.isServer_iff.mp server]
      rfl
  | false =>
      rw [change?, ← getD_relabelPath?]
      cases relabelPath? NodeFacts.name update.applyTo (Path.segments update.path)
        definition.suites <;> rfl

theorem overwrites_updated : Overwrites updated := by
  have nodes := NodeUpdate.overwrites_applyTo.relabelPath
    NodeFacts.name (fun _ _ => rfl) (fun update => Path.segments update.path)
  refine ⟨fun definition update => ?_, fun definition update other => ?_⟩
  · simp only [updated_eq, nodes.again]
    split <;> simp only [NodeUpdate.overwrites_applyToServer.again]
  · simp only [updated_eq, nodes.since]
    split
    · split <;> simp only [NodeUpdate.overwrites_applyToServer.again,
        NodeUpdate.overwrites_applyToServer.since]
    · rfl

end Definition

/-! ## Mirrors -/

namespace Mirror

/-- The mirror after an update that it can follow. -/
def followed (mirror : Mirror) (update : NodeUpdate) : Mirror :=
  { mirror with
    suites := relabelPath (fun facts : MirrorFacts => facts.name) update.applyToMirrored
      (Path.segments update.path) mirror.suites }

theorem overwrites_followed : Overwrites followed := by
  have nodes := NodeUpdate.overwrites_applyToMirrored.relabelPath
    (fun facts => facts.name) (fun _ _ => rfl) (fun update => Path.segments update.path)
  refine ⟨fun mirror update => ?_, fun mirror update other => ?_⟩
  · simp only [followed, nodes.again]
  · simp only [followed, nodes.since]

variable {mirror after : Mirror} {definition : Definition} {filter : SuiteFilter}
  {update : NodeUpdate}

theorem followed_server (server : update.isServer = true) : mirror.followed update = mirror := by
  rw [followed, Path.isServer_iff.mp server, relabelPath]

/-- An update below a suite that the mirror does not have passes it by. -/
theorem followed_absent (absent : mirror.holdsSuiteOf update.path = false) :
    mirror.followed update = mirror := by
  rw [followed, ← getD_relabelPath?]
  cases segments : Path.segments update.path with
  | nil => rfl
  | cons suite below =>
      rw [holdsSuiteOf_of_segments segments, Option.isSome_eq_false_iff, Option.isNone_iff_eq_none]
        at absent
      rw [relabelPath?, changeNamed?_eq_none absent]
      rfl

theorem followed_endUpdate {begun change : NodeChange} (used : begun.ignore = false)
    (ok : mirror.endUpdate update begun = .ok (after, change)) : after = mirror.followed update := by
  have relabeled := endUpdate_ok used ok
  have staged : after.staged = mirror.staged := by
    rw [endUpdate, if_neg (by simp [used])] at ok
    simp only at ok
    split at ok
    · cases ok
    · cases ok
      rfl
  rw [followed, ← getD_relabelPath?, relabeled, ← staged]
  rfl

/-- An update keeps the outline. -/
theorem outline_followed (mirror : Mirror) (update : NodeUpdate) :
    (mirror.followed update).outline = mirror.outline := by
  rw [followed, ← getD_relabelPath?, outline]
  cases relabeled : relabelPath? (fun facts : MirrorFacts => facts.name) update.applyToMirrored
    (Path.segments update.path) mirror.suites with
  | none => rfl
  | some suites => exact mapForest_relabelPath? update.outline_applyToMirrored relabeled

theorem outline_foldl_followed (changes : List NodeUpdate) (mirror : Mirror) :
    (changes.foldl followed mirror).outline = mirror.outline := by
  induction changes generalizing mirror with
  | nil => rfl
  | cons update changes induction => exact (induction _).trans (mirror.outline_followed update)

/-- If a scan does not bring the node of an update, the update makes no difference to it. -/
theorem scanned_updated_missing {suite : String} {below : List String}
    (segments : Path.segments update.path = suite :: below)
    (missing : relabelPath? (fun facts : MirrorFacts => facts.name) update.applyToMirrored
      (suite :: below) (scanned definition filter) = none) :
    scanned (definition.updated update) filter = scanned definition filter := by
  cases accepted : filter.accepts suite with
  | true =>
      rw [scanned, NodeUpdate.relabelPath?_scanNodes, relabelPath?,
        changeNamed?_filter accepted (name_relabeled below), Option.map_eq_none_iff,
        Option.map_eq_none_iff] at missing
      rw [scanned, scanned, suites_updated segments, missing]
      rfl
  | false =>
      refine scanned_updated_absent segments ?_
      rw [scanned, findNamed?_scanNodes, findNamed?_filter_rejected accepted]
      rfl

/-- The mirror of an updated definition is the updated mirror. -/
theorem followed_scanned (definition : Definition) (filter : SuiteFilter) (update : NodeUpdate) :
    followed { suites := scanned definition filter } update =
      { suites := scanned (definition.updated update) filter } := by
  rw [followed, ← getD_relabelPath?]
  congr 1
  cases segments : Path.segments update.path with
  | nil => exact (scanned_updated_server (Path.isServer_iff.mpr segments)).symm
  | cons suite below =>
      cases relabeled : relabelPath? (fun facts : MirrorFacts => facts.name) update.applyToMirrored
        (suite :: below) (scanned definition filter) with
      | some suites => exact scanned_updated segments relabeled
      | none => exact (scanned_updated_missing segments relabeled).symm

theorem foldl_followed_scanned (changes : List NodeUpdate) (definition : Definition)
    (filter : SuiteFilter) :
    changes.foldl followed { suites := scanned definition filter } =
      { suites := scanned (changes.foldl Definition.updated definition) filter } := by
  induction changes generalizing definition with
  | nil => rfl
  | cons update changes induction =>
      rw [List.foldl_cons, List.foldl_cons, followed_scanned, induction]

theorem isOutdatedBy_of_outline (same : after.outline = mirror.outline) (reply : Reply) :
    after.isOutdatedBy reply = mirror.isOutdatedBy reply := by
  simp only [isOutdatedBy, isEmpty_of_outline same, outdates_of_outline same]

end Mirror

end FlowClient
