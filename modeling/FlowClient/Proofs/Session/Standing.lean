import FlowClient.Proofs.Queue.Moves
import FlowClient.Proofs.Session.Operations

/-! How a session stands: what it knows of its server, what it shows of that, and what is
still to come. For each part of a session the lemmas here say what becomes of that. -/

namespace FlowClient

/-- What of a session has to do with its mirror, with getting that filled, and with what it
asks to be dispatched. -/
structure Standing where
  disconnected : Bool
  shuttingDown : Bool
  disabled : Bool
  activity : Activity
  resetting : Option TaskId
  definition : Definition
  shown : List MirrorNode
  operations : List Notice
  /-- The tasks that are to be dispatched at the next step. -/
  asked : List TaskId

def SessionCommand.task? : SessionCommand → Option TaskId
  | dispatch id => some id
  | startTimer _ => none
  | stopTimer => none

namespace Session

def standing (session : Session) : Standing where
  disconnected := session.contact = .disconnected
  shuttingDown := session.shuttingDown
  disabled := session.queue.mode = .disabled
  activity := session.activity
  resetting := session.queue.resetting
  definition := session.definition
  shown := session.mirror.suites
  operations := session.operations
  asked := session.commands.filterMap SessionCommand.task?

variable (session : Session)

/-! ## Tasks -/

theorem standing_queue (queue : Queue) : ({ session with queue } : Session).standing =
    { session.standing with
      disabled := queue.mode = .disabled, resetting := queue.resetting } := rfl

@[simp] theorem standing_advance (id : TaskId) (next : Progress) :
    (session.advance id next).standing = session.standing := rfl

@[simp] theorem standing_follow (task : Task) :
    (session.follow task).standing = session.standing := by
  have frame := session.queue.add_frame task
  simp only [standing, follow, frame]
  rfl

/-! ## Dispatches -/

@[simp] theorem asked_stopTimer :
    session.stopTimer.commands.filterMap SessionCommand.task? =
      session.commands.filterMap SessionCommand.task? := by
  rw [stopTimer]
  split <;> simp [SessionCommand.task?]

@[simp] theorem asked_restartTimer :
    session.restartTimer.commands.filterMap SessionCommand.task? =
      session.commands.filterMap SessionCommand.task? := by
  rw [restartTimer]
  split
  · rfl
  split
  · simp [SessionCommand.task?]
  · simp

@[simp] theorem asked_rescan : session.rescan.1.commands.filterMap SessionCommand.task? =
    session.commands.filterMap SessionCommand.task? := by
  simp [rescan]

@[simp] theorem asked_resetFinished :
    session.resetFinished.1.commands.filterMap SessionCommand.task? =
      session.commands.filterMap SessionCommand.task? := by
  simp [resetFinished]

@[simp] theorem asked_resetFailed (reason : String) :
    (session.resetFailed reason).commands.filterMap SessionCommand.task? =
      session.commands.filterMap SessionCommand.task? := by
  simp [resetFailed]

/-! ## Contact, activity and timer -/

@[simp] theorem standing_setActivity (activity : Activity) :
    (session.setActivity activity).standing = { session.standing with activity } := by
  simp [standing]

@[simp] theorem standing_setContact (contact : Contact) : (session.setContact contact).standing =
    { session.standing with disconnected := contact = .disconnected } := by
  simp [standing]

@[simp] theorem standing_contactGained :
    session.contactGained.standing = { session.standing with disconnected := false } := by
  simp [standing]

@[simp] theorem standing_contactLost (reason : String) :
    (session.contactLost reason).standing = session.standing := by
  rw [contactLost]
  split
  · rfl
  · rename_i connected
    simp [standing, connected]

@[simp] theorem standing_stopTimer : session.stopTimer.standing = session.standing := by
  simp [standing]

@[simp] theorem standing_restartTimer : session.restartTimer.standing = session.standing := by
  simp [standing]

@[simp] theorem standing_finishIfIdle : session.finishIfIdle.standing = session.standing := by
  simp [standing]

/-! ## The mirror -/

theorem standing_clearTree : session.clearTree.standing = { session.standing with
    shown := [], operations := session.operations ++ session.clearing } := by
  simp [standing, suites_clearTree]

theorem standing_rescan : session.rescan.1.standing = { session.standing with
    activity := .idle
    shown := Mirror.scanned session.definition session.filter
    operations := session.operations ++ session.clearing ++ [session.scanning] } := by
  have mode (queue : Queue) : (queue.start.mode = .disabled) = (queue.mode = .disabled) := by
    cases mode : queue.mode <;> simp [Queue.start, mode]
  simp [standing, mode]

theorem standing_resetFinished : session.resetFinished.1.standing = { session.standing with
    disconnected := false
    activity := .idle
    definition := session.stampServer.definition
    shown := Mirror.scanned session.definition session.filter
    operations := session.operations ++ [session.scanning] } := by
  simp [standing]

theorem standing_resetFailed (reason : String) : (session.resetFailed reason).standing =
    { session.standing with disconnected := false, activity := .idle } := by
  simp [standing]

/-! ## Resets -/

/-- A reset is asked for once at a time, and only while something may be sent. -/
theorem reset_of_blocked (blocked : session.queue.state = .reset ∨
    session.contact = .disconnected ∨ session.shuttingDown = true) : session.reset = session := by
  rw [reset]
  rcases blocked with busy | disconnected | closing
  · simp [busy]
  · simp [disconnected]
  · simp [closing]

/-- The task that loads what the filter selects. -/
def loadTask : Task := Task.reset session.filter.registered session.filter.autoAddNew

/-- A session that is about to queue a reset. -/
def emptied : Session :=
  { session.stopTimer with queue := session.queue.suspend }.clearTree.setActivity .loading

theorem standing_emptied : session.emptied.standing =
    { session.standing with
      disabled := session.queue.suspend.mode = .disabled
      activity := .loading
      shown := []
      operations := session.operations ++ session.clearing } := by
  have cleared := standing_clearTree { session.stopTimer with queue := session.queue.suspend }
  rw [emptied, standing_setActivity, cleared]
  simp [standing, clearing, operations]

/-- A reset that is not blocked is queued, and no other one is. -/
theorem reset_of_free (ended : session.queue.state ≠ .reset)
    (connected : session.contact ≠ .disconnected) (going : session.shuttingDown = false) :
    session.reset = { session.emptied with
      queue := ((session.queue.suspend.enter session.loadTask).1.reset
        session.queue.suspend.ledger.size).1 } := by
  rw [reset]
  rw [if_neg ended, if_neg (by simp [connected, going])]
  simp [emptied, loadTask, enter, Queue.enter]

/-- All that a call for a reset can do. -/
theorem reset_cases (session : Session) :
    (session.queue.state = .reset ∨ session.contact = .disconnected ∨
        session.shuttingDown = true) ∧ session.reset = session ∨
      session.queue.state ≠ .reset ∧ session.contact ≠ .disconnected ∧
        session.shuttingDown = false ∧ session.reset = { session.emptied with
          queue := ((session.queue.suspend.enter session.loadTask).1.reset
            session.queue.suspend.ledger.size).1 } := by
  by_cases blocked : session.queue.state = .reset ∨ session.contact = .disconnected ∨
      session.shuttingDown = true
  · exact .inl ⟨blocked, session.reset_of_blocked blocked⟩
  · simp only [not_or, Bool.not_eq_true] at blocked
    rcases blocked with ⟨ended, connected, going⟩
    exact .inr ⟨ended, connected, going, session.reset_of_free ended connected going⟩

theorem standing_reset (ended : session.queue.state ≠ .reset)
    (connected : session.contact ≠ .disconnected) (going : session.shuttingDown = false)
    (enabled : session.queue.mode ≠ .disabled) : ∃ id, session.reset.standing =
      { session.standing with
        activity := .loading
        resetting := some id
        shown := []
        operations := session.operations ++ session.clearing } := by
  refine ⟨session.queue.suspend.ledger.size, ?_⟩
  have suspended : session.queue.suspend.mode ≠ .disabled := by
    rw [Queue.suspend]
    split <;> simp [enabled]
  obtain ⟨mode, -, -, resetting⟩ := Queue.reset_frame
    (session.queue.suspend.enter session.loadTask).1 session.queue.suspend.ledger.size suspended
  rw [session.reset_of_free ended connected going, standing_queue, standing_emptied, mode, resetting]
  simp [standing, enabled]

/-! ## Connecting -/

def reconnected : Session :=
  { session.setContact (.lost none) with queue := session.queue.enable }.restartTimer

theorem connect_of_free (disconnected : session.contact = .disconnected)
    (going : session.shuttingDown = false) : session.connect =
      if session.mirror.isEmpty then session.reconnected.reset
      else session.reconnected.update.1 := by
  simp [connect, disconnected, going, reconnected]

@[simp] theorem reconnected_frame :
    session.reconnected.contact = .lost none ∧
    session.reconnected.queue = session.queue.enable ∧
    session.reconnected.shuttingDown = session.shuttingDown ∧
    session.reconnected.filter = session.filter := by
  simp [reconnected]

theorem standing_reconnected : session.reconnected.standing =
    { session.standing with disconnected := false, disabled := false } := by
  have mode : session.queue.enable.mode ≠ .disabled := by
    rw [Queue.enable]
    split <;> simp [*]
  rw [reconnected, standing_restartTimer, standing_queue, standing_setContact]
  simp [standing, mode]

/-! ## Syncs -/

/-- Changes never fill a mirror, and one that they do not empty is not cleared. -/
structure KeepsUp (before after : Session) : Prop where
  grows : before.operations <+: after.operations
  filled : after.mirror.isEmpty = false →
    before.mirror.isEmpty = false ∧ after.operations = before.operations

theorem KeepsUp.trans {before middle after : Session} (first : before.KeepsUp middle)
    (second : middle.KeepsUp after) : before.KeepsUp after where
  grows := first.grows.trans second.grows
  filled := by
    intro filled
    rcases second.filled filled with ⟨middleFilled, same⟩
    rcases first.filled middleFilled with ⟨beforeFilled, sameBefore⟩
    exact ⟨beforeFilled, same.trans sameBefore⟩

theorem keepsUp_of_same {before after : Session} (operations : after.operations = before.operations)
    (mirror : after.mirror.isEmpty = before.mirror.isEmpty) : before.KeepsUp after :=
  ⟨by simp [operations], fun filled => ⟨mirror.symm.trans filled, operations⟩⟩

theorem keepsUp_clearTree : session.KeepsUp session.clearTree :=
  ⟨by simp, by simp⟩

theorem keepsUp_nodeChanged (update : NodeUpdate) :
    session.KeepsUp (session.nodeChanged update).1 := by
  rw [nodeChanged]
  split
  · exact keepsUp_of_same (by simp [operations, Event.isOperation]) (by simp)
  split
  · exact session.keepsUp_clearTree
  split
  · exact keepsUp_of_same rfl rfl
  rename_i filled
  split
  · exact keepsUp_of_same rfl rfl
  split
  · exact keepsUp_of_same rfl rfl
  simp only
  split
  · exact keepsUp_of_same (by simp [operations, Event.isOperation]) (by simp)
  · refine ⟨by simp [operations, Event.isOperation], fun _ => ⟨by simpa using filled, ?_⟩⟩
    simp [operations, Event.isOperation]

theorem keepsUp_applyChange (update : NodeUpdate) :
    session.KeepsUp (session.applyChange update) := by
  have start : session.KeepsUp
      { session with definition := session.definition.updated update } := keepsUp_of_same rfl rfl
  have follows := start.trans (keepsUp_nodeChanged _ update)
  rcases session.applyChange_cases update with same | same
  · exact same ▸ follows
  · exact same ▸ follows.trans (keepsUp_clearTree _)

theorem keepsUp_applySync (reply : Reply) : session.KeepsUp (session.applySync reply) := by
  have start : session.KeepsUp (session.takeDefinition reply) := keepsUp_of_same (by simp) (by simp)
  exact applySync_of_steps KeepsUp .trans start keepsUp_applyChange

theorem standing_applySync (reply : Reply) : (session.applySync reply).standing =
    { session.standing with
      definition := (session.applySync reply).definition
      shown := (session.applySync reply).mirror.suites
      operations := (session.applySync reply).operations } := by
  simp [standing]

end Session

end FlowClient
