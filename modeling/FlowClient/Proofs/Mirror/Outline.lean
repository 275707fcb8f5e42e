import FlowClient.Proofs.Mirror.Scan
import FlowClient.Proofs.Tree.Map
import FlowClient.Wire

/-! The outline of a mirror: which nodes it has, where they hang and in which order. No update
that a mirror can follow changes its outline, and the outline alone decides which
updates it can follow. -/

namespace FlowClient

/-- What no update of a node changes: its name, its kind and where it hangs. -/
def MirrorFacts.outline (facts : MirrorFacts) : MirrorFacts where
  name := facts.name
  kind := facts.kind
  path := facts.path

theorem MirrorFacts.name_outline (facts : MirrorFacts) : facts.outline.name = facts.name := rfl

theorem NodeUpdate.outline_applyToMirrored (update : NodeUpdate) (facts : MirrorFacts) :
    (update.applyToMirrored facts).outline = facts.outline := rfl

namespace Mirror

def outline (mirror : Mirror) : List MirrorNode := mapForest MirrorFacts.outline mirror.suites

/-- Whether a mirror has the suite in which a path leads. -/
def holdsSuiteOf (mirror : Mirror) (path : String) : Bool :=
  match Path.segments path with
  | [] => false
  | suite :: _ => (findNamed? (·.name) suite mirror.suites).isSome

end Mirror

/-- Whether a mirror cannot follow an update: it is one of the shape of the tree, or of a
node that is missing from a suite that is mirrored. -/
def NodeUpdate.outdates (update : NodeUpdate) (mirror : Mirror) : Bool :=
  !update.isServer && (update.isStructural ||
    (mirror.holdsSuiteOf update.path && (mirror.find? update.path).isNone))

/-- Whether the reply to a sync leaves a mirror of no use. -/
def Mirror.isOutdatedBy (mirror : Mirror) (reply : Reply) : Bool :=
  reply.fullSync || mirror.isEmpty || reply.changes.any (·.outdates mirror)

namespace Mirror

variable {before after : Mirror} {update : NodeUpdate}

theorem holdsSuiteOf_of_segments {path suite : String} {below : List String}
    (segments : Path.segments path = suite :: below) (mirror : Mirror) :
    mirror.holdsSuiteOf path =
      (findNamed? (fun facts : MirrorFacts => facts.name) suite mirror.suites).isSome := by
  rw [holdsSuiteOf, segments]

/-! ## What the outline decides -/

theorem isEmpty_of_outline (same : after.outline = before.outline) :
    after.isEmpty = before.isEmpty := by
  simpa [outline, isEmpty] using congrArg List.isEmpty same

theorem holdsSuiteOf_of_outline (same : after.outline = before.outline) (path : String) :
    after.holdsSuiteOf path = before.holdsSuiteOf path := by
  have seen (mirror : Mirror) (suite : String) :
      (findNamed? (·.name) suite mirror.suites).isSome =
        (findNamed? (·.name) suite mirror.outline).isSome := by
    rw [outline, findNamed?_mapForest (fun facts : MirrorFacts => facts.name) MirrorFacts.name_outline,
      Option.isSome_map]
  cases segments : Path.segments path with
  | nil => simp [holdsSuiteOf, segments]
  | cons suite below =>
      rw [holdsSuiteOf_of_segments segments, holdsSuiteOf_of_segments segments, seen after,
        seen before, same]

theorem find?_of_outline (same : after.outline = before.outline) (path : String) :
    (after.find? path).isNone = (before.find? path).isNone := by
  have seen (mirror : Mirror) : (mirror.find? path).isNone =
      (findPath? (·.name) (Path.segments path) mirror.outline).isNone := by
    rw [outline, findPath?_mapForest (fun facts : MirrorFacts => facts.name) MirrorFacts.name_outline,
      Option.isNone_map]
    rfl
  rw [seen after, seen before, same]

theorem outdates_of_outline (same : after.outline = before.outline) (update : NodeUpdate) :
    update.outdates after = update.outdates before := by
  rw [NodeUpdate.outdates, NodeUpdate.outdates, holdsSuiteOf_of_outline same, find?_of_outline same]

/-! ## Updates -/

/-- The suite of the updated node decides whether an update is announced, and the node itself
whether that fails. -/
theorem beginUpdate_eq (filled : before.isEmpty = false) (node : update.isServer = false) :
    before.beginUpdate update.path {} =
      if before.holdsSuiteOf update.path then
        match before.find? update.path with
        | none => .error (.unknownNode update.path)
        | some found => .ok { attributesBefore := found.label.attributes.size }
      else .ok { ignore := true } := by
  have addressed : Path.segments update.path ≠ [] := by
    rw [Ne, ← Path.isServer_iff]
    simpa [NodeUpdate.isServer] using node
  rcases List.exists_cons_of_ne_nil addressed with ⟨suite, below, segments⟩
  rw [holdsSuiteOf_of_segments segments, beginUpdate, if_neg (by simp [filled]), segments]
  dsimp only
  cases findNamed? (fun facts : MirrorFacts => facts.name) suite before.suites with
  | none => rfl
  | some _ => cases before.find? update.path <;> rfl

end Mirror

end FlowClient
