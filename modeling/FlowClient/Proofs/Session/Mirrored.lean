import FlowClient.Proofs.Mirror.Scan
import FlowClient.Proofs.Session.Effects

/-! The mirror that is followed node by node is the one that a scan would bring. Every
update is made in the definition and in the mirror, by two lookups of its path, and
what the first leaves is the image of what the second leaves, for as long as the mirror
is not emptied. -/

namespace FlowClient.Session

/-! ## Changes -/

/-- What a change that is followed may do to the mirror. -/
inductive Follows (update : NodeUpdate) (before after : Mirror) : Prop
  | server (server : update.isServer = true) (same : after = before)
  | emptied (empty : after.isEmpty = true)
  | ignored {suite below} (segments : Path.segments update.path = suite :: below)
      (absent : findNamed? (fun facts : MirrorFacts => facts.name) suite before.suites = none)
      (same : after = before)
  | changed {suite below} (segments : Path.segments update.path = suite :: below)
      (relabeled : relabelPath? (fun facts : MirrorFacts => facts.name) update.applyToMirrored
        (suite :: below) before.suites = some after.suites)

variable (session : Session) (update : NodeUpdate)

theorem follows_nodeChanged : (session.nodeChanged update).2 = .ok () →
    Follows update session.mirror (session.nodeChanged update).1.mirror := by
  rw [nodeChanged]
  split
  · rename_i server
    exact fun _ => .server server (by simp)
  split
  · exact fun _ => .emptied (by simp)
  split
  · rename_i empty
    exact fun _ => .emptied empty
  rename_i filled
  split
  · intro ok
    cases ok
  rename_i begun beginning
  rcases Mirror.beginUpdate_ok (by simpa using filled) beginning with
      ⟨suite, below, segments, absent⟩
  split
  · rename_i ignored
    exact fun _ => .ignored segments (absent ignored) rfl
  rename_i used
  simp only
  split
  · intro ok
    cases ok
  · rename_i mirror change ending
    have relabeled := Mirror.endUpdate_ok (by simpa using used) ending
    rw [segments] at relabeled
    exact fun _ => .changed segments (by simpa using relabeled)

theorem Follows.scanned {update : NodeUpdate} {definition : Definition} {filter : SuiteFilter}
    {before after : Mirror} (follows : Follows update before after)
    (scanned : before.suites = Mirror.scanned definition filter) (filled : after.isEmpty = false) :
    after.suites = Mirror.scanned (definition.updated update) filter := by
  cases follows with
  | server server same => rw [same, scanned, Mirror.scanned_updated_server server]
  | emptied empty =>
      rw [empty] at filled
      cases filled
  | ignored segments absent same =>
      rw [scanned] at absent
      rw [same, scanned, Mirror.scanned_updated_absent segments absent]
  | changed segments relabeled =>
      rw [scanned] at relabeled
      exact Mirror.scanned_updated segments relabeled

/-- The mirror is what a scan of the definition brings through a filter, or it is empty. -/
def Mirrors (session : Session) (filter : SuiteFilter) : Prop :=
  session.mirror.isEmpty = false →
    session.mirror.suites = Mirror.scanned session.definition filter

variable {session : Session} {filter : SuiteFilter}

theorem mirrors_applyChange (mirrors : session.Mirrors filter) (update : NodeUpdate) :
    (session.applyChange update).Mirrors filter := by
  intro filled
  have before := ((session.keepsUp_applyChange update).filled filled).1
  have follows := follows_nodeChanged
    { session with definition := session.definition.updated update } update
  rw [(session.applyChange_frame update).2.2.2.2.1]
  revert filled
  rcases followed : nodeChanged
    { session with definition := session.definition.updated update } update with ⟨after, checked⟩
  rw [followed] at follows
  cases checked with
  | ok =>
      simp only [applyChange, followed]
      exact (follows rfl).scanned (mirrors before)
  | error problem => simp [applyChange, followed]

theorem mirrors_applySync (mirrors : session.Mirrors filter) {reply : Reply}
    (part : reply.fullSync = false) : (session.applySync reply).Mirrors filter := by
  have start : session.takeDefinition reply = session := by simp [takeDefinition, part]
  rw [applySync, start]
  clear start
  induction reply.changes generalizing session with
  | nil => exact mirrors
  | cons update changes induction => exact induction (mirrors_applyChange mirrors update)

/-! ## Runs -/

/-- The last turn that filled the mirror anew. -/
def lastScan? (turns : List Turn) : Option Turn := turns.reverse.find? Turn.scans

@[simp] theorem lastScan?_concat (turns : List Turn) (turn : Turn) :
    lastScan? (turns ++ [turn]) = if turn.scans then some turn else lastScan? turns := by
  cases scans : turn.scans <;> simp [lastScan?, scans]

/-- A mirror that holds anything is what a scan brings through the filter of the last scan. -/
def MirrorsLast (turns : List Turn) (session : Session) : Prop :=
  session.standing.shown ≠ [] → ∃ turn, lastScan? turns = some turn ∧
    turn.after.filter = turn.before.filter ∧
    session.standing.shown = Mirror.scanned session.standing.definition turn.before.filter

variable {turns : List Turn} {input : Input}

theorem MirrorsLast.later (mirrors : MirrorsLast turns session)
    (operations : (session.receive input).operations = session.operations)
    (shown : (session.receive input).standing.shown = session.standing.shown)
    (definition : (session.receive input).standing.definition = session.standing.definition) :
    MirrorsLast (turns ++ [⟨session, input⟩]) (session.receive input) := by
  rw [MirrorsLast]
  have goesOn : Turn.scans ⟨session, input⟩ = false := not_scans_of_same operations
  rw [lastScan?_concat, goesOn, shown, definition]
  exact mirrors

theorem mirrorsLast_receive (coherent : session.Coherent) (mirrors : MirrorsLast turns session)
    (input : Input) : MirrorsLast (turns ++ [⟨session, input⟩]) (session.receive input) := by
  cases effect_receive coherent input with
  | stays same =>
      exact mirrors.later (congrArg Standing.operations same) (by rw [same]) (by rw [same])
  | begins id going same => exact fun filled => absurd (congrArg Standing.shown same) filled
  | connects going filled same =>
      exact mirrors.later (congrArg Standing.operations same) (by rw [same]) (by rw [same])
  | disconnects resetting kept same =>
      exact mirrors.later (congrArg Standing.operations same) (by rw [same]) (by rw [same])
  | closes resetting kept same =>
      exact mirrors.later (congrArg Standing.operations same) (by rw [same]) (by rw [same])
  | fails flying useless same =>
      exact mirrors.later (congrArg Standing.operations same) (by rw [same]) (by rw [same])
  | @follows reply taken definition mirror part filled same =>
      have goesOn : Turn.scans ⟨session, .complete (.ok reply)⟩ = false :=
        not_scans_of_same (congrArg Standing.operations same)
      have before : session.standing.shown ≠ [] := by
        have takenFilled := ((taken.keepsUp_applySync reply).filled filled).1
        rw [mirror] at takenFilled
        exact fun empty => by simp [Mirror.isEmpty, show session.mirror.suites = [] from empty] at takenFilled
      rcases mirrors before with ⟨turn, last, filter, shown⟩
      have takenMirrors : taken.Mirrors turn.before.filter := by
        intro _
        rw [mirror, definition]
        exact shown
      refine fun _ => ⟨turn, ?_, filter, ?_⟩
      · rw [lastScan?_concat, goesOn]
        exact last
      · rw [same]
        exact mirrors_applySync takenMirrors part filled
  | @scans reply definition cleared filter same =>
      have scans : Turn.scans ⟨session, .complete (.ok reply)⟩ = true :=
        scans_of_scan (congrArg Standing.operations same)
      refine fun _ => ⟨⟨session, .complete (.ok reply)⟩, ?_, filter, ?_⟩
      · rw [lastScan?_concat, scans, if_pos rfl]
      · rw [same]

theorem mirrorsLast_receiveAll (options : SessionOptions) (inputs : List Input) :
    MirrorsLast ((new options).turns inputs) ((new options).receiveAll inputs) := by
  induction inputs using List.reverseRecOn with
  | nil => exact fun filled => absurd rfl filled
  | append_singleton inputs input induction =>
      rw [receiveAll_concat, turns_concat]
      exact mirrorsLast_receive (coherent_receiveAll options inputs) induction input

/-- In any run, a mirror that is not empty is what a scan would bring of those suites of the
definition that the filter accepted at the last scan. -/
theorem suites_eq_scan (options : SessionOptions) (inputs : List Input)
    (filled : ((new options).receiveAll inputs).mirror.isEmpty = false) :
    ∃ turn, lastScan? ((new options).turns inputs) = some turn ∧
      turn.after.filter = turn.before.filter ∧
      ((new options).receiveAll inputs).mirror.suites = scanNodes "/"
        (((new options).receiveAll inputs).definition.suites.filter
          (turn.before.filter.accepts ·.label.name)) :=
  mirrorsLast_receiveAll options inputs fun empty => by
    simp [Mirror.isEmpty, show ((new options).receiveAll inputs).mirror.suites = [] from empty] at filled

/-- A load, after which the server has news, and the only suite becomes active. -/
def changes : List Input :=
  loads ++ [.tick, .takeStep, .complete (.ok { news := some .news }), .takeStep,
    .complete (.ok { changes := [{ path := "/s1", state := some .active }] })]

theorem suites_eq_scan_of_changes :
    ((new sampleOptions).receiveAll (.reset :: changes)).mirror.isEmpty = false ∧
      ∃ turn, lastScan? ((new sampleOptions).turns (.reset :: changes)) = some turn ∧
        turn.after.filter = turn.before.filter ∧
        ((new sampleOptions).receiveAll (.reset :: changes)).mirror.suites = scanNodes "/"
          (((new sampleOptions).receiveAll (.reset :: changes)).definition.suites.filter
            (turn.before.filter.accepts ·.label.name)) :=
  ⟨by decide +kernel, suites_eq_scan sampleOptions (.reset :: changes) (by decide +kernel)⟩

end FlowClient.Session
